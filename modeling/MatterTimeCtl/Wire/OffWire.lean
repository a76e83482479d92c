/-
# MatterTimeCtl.Wire.OffWire — what a run does besides talking to nodes.

Only four functions talk to commissioned nodes: the sync, the decommission and the inspection of a node, and the
reads of its names.  Everything else an invocation does is off the wire, and what a property of the wire asks of it is
stated once: of a whole run, `heeds_run` leaves only its operation.
-/
import MatterTimeCtl.Effect.Monitor
import MatterTimeCtl.Controller.Footprint

namespace MatterTimeCtl

open Files Effect

/-- Calls that open no exchange with a commissioned node and send nothing on one. -/
def OffWire : Call → Prop
  | .wire _ _ | .timed _ (.initiate _) => False
  | _ => True

theorem Outside.offWire {c : Call} (h : Outside c) : OffWire c := by
  unfold Outside at h
  split at h <;> trivial

theorem OnFiles.offWire {c : Call} (h : OnFiles c) : OffWire c := by
  unfold OnFiles at h
  split at h <;> trivial

theorem Looks.offWire {c : Call} (h : Looks c) : OffWire c := h.outside.offWire

section OffWire

variable (ext : Externals) (config : Config) (ctx : Ctx)

/-- What a patch of a record may do. -/
theorem offWire_updateDevice (nodeId : NodeId) {patch : DeviceRecord → Action DeviceRecord}
    (hpatch : ∀ d, (patch d).run.Uses OffWire) : (updateDevice ext devicesPath nodeId patch).run.Uses OffWire :=
  uses_run_bind ((onFiles_loadOrDefault ext _).mono fun _ => OnFiles.offWire) fun _ =>
    uses_run_bind (hpatch _) fun _ => (onFiles_store _ _ _).mono fun _ => OnFiles.offWire

theorem offWire_removeDevice (nodeId : NodeId) : (removeDevice ext devicesPath nodeId).run.Uses OffWire :=
  (onFiles_removeDevice ext nodeId).mono fun _ => OnFiles.offWire

theorem offWire_noteAttempt (nodeId : NodeId) : (updateDevice ext devicesPath nodeId fun d => do
    let now ← ask .now
    return { d with lastAttemptedSync := some now }).run.Uses OffWire :=
  offWire_updateDevice ext nodeId fun _ => uses_run_bind (uses_ask (c := .now) trivial) fun _ => uses_run_pure _

theorem offWire_noteOutcome (nodeId : NodeId) (outcome : SyncOutcome) :
    (updateDevice ext devicesPath nodeId (SyncOp.noteOutcome outcome)).run.Uses OffWire := by
  refine offWire_updateDevice ext nodeId fun d => ?_
  unfold SyncOp.noteOutcome
  split
  · exact uses_run_bind (uses_ask (c := .now) trivial) fun _ =>
      uses_run_bind (uses_ask (c := .now) trivial) fun _ => uses_run_pure _
  · exact uses_run_pure _

theorem offWire_logOutcome (nodeId : NodeId) (error : Option String) :
    (SyncOp.logOutcome nodeId error).run.Uses OffWire := by
  cases error with
  | none => exact uses_run_pure _
  | some _ => exact uses_ask trivial

/-- The commissioning phases are not exchanges with a commissioned node. -/
theorem offWire_join (onboarding : Onboarding) : (CommissionOp.join ctx onboarding).run.Uses OffWire := by
  unfold CommissionOp.join
  refine uses_run_bind (uses_run_bind (uses_ask trivial) fun _ => uses_orFail _ _) fun peer => ?_
  refine uses_run_bind (uses_orFail _ _) fun _ =>
    uses_run_bind (uses_run_bind (uses_ask trivial) fun _ => uses_orFail _ _) fun _ => ?_
  refine uses_run_bind (uses_withTimeout trivial _) fun _ => ?_
  split
  · exact uses_run_throw _
  · exact uses_run_bind (uses_withTimeout trivial _) fun _ => uses_run_pure _

theorem offWire_store {α : Type} (json : Codec α) (path : Path) (value : α) :
    (store json path value).run.Uses OffWire := (onFiles_store json path value).mono fun _ => OnFiles.offWire

theorem mayEnsure_offWire : MayEnsure OffWire where
  readDevices := trivial
  findIdentity := trivial
  readIdentity := trivial
  storeIdentity := ⟨trivial, trivial, fun _ => trivial, trivial, trivial⟩
  storeKey _ := ⟨trivial, trivial, fun _ => trivial, trivial, trivial⟩
  removeKey _ := trivial
  crypto _ := trivial
  fill _ := trivial
  warn _ := trivial

theorem offWire_prepareStorageDir : (prepareStorageDir config).run.Uses OffWire :=
  (outside_prepareStorageDir config).mono fun _ => Outside.offWire

theorem offWire_lockStorage (op : Op) : (lockStorage config op).run.Uses OffWire := by
  unfold lockStorage
  refine uses_run_bind (uses_run_bind (uses_ask trivial) fun _ => uses_orFail _ _) fun _ =>
    uses_run_bind (uses_ask trivial) fun granted => ?_
  split
  · exact uses_run_throw _
  · exact uses_run_pure _

theorem offWire_pickInterface : pickInterface.run.Uses OffWire := by
  refine uses_run_bind (uses_run_bind (uses_ask trivial) fun _ => uses_orFail _ _) fun all => ?_
  split
  · exact uses_run_pure _
  · exact uses_run_throw _

end OffWire

/-! ## Around the operation -/

section Harness

variable {ext : Externals} {config : Config}

/-- **A run heeds a monitor** that does not look off the wire, if its operation does. -/
theorem heeds_run {σ : Type} {M : Monitor Call Call.Answer σ} {I : σ → Prop}
    (off : ∀ c s, OffWire c → I s → M.may s c ∧ ∀ a, I (M.see s c a)) {s : σ} (hs : I s) (op : Op)
    (operate : ∀ fabrics fabIdx identity s, I s →
      Heeds M (runOp ext { fabrics, fabIdx, identity, config } op).run (fun _ => I) s) :
    Heeds M (MatterTimeCtl.run ext config op).run (fun _ => I) s := by
  have part : ∀ {α β : Type} {x : Action α} {f : α → Action β} {s : σ}, x.run.Uses OffWire → I s →
      (∀ a s', I s' → Heeds M (f a).run (fun _ => I) s') → Heeds M (x >>= f).run (fun _ => I) s :=
    fun hx hs hf => (Heeds.of_keeps hx off hs).run_bind (fun a s' h => hf a s' h) fun _ _ h => h
  refine part (offWire_prepareStorageDir config) hs fun _ s₁ h₁ => part (offWire_lockStorage config op) h₁
    fun _ s₂ h₂ => ?_
  rw [run_attempt_bind, heeds_bind]
  refine Heeds.mono (Q := fun _ => I) ?_ fun r s₃ h₃ => part (uses_ask trivial) h₃ fun _ s₄ h₄ =>
    Heeds.of_keeps (uses_orFail _ _) off h₄
  unfold runLocked
  refine part (uses_run_bind (uses_ask trivial) fun _ => uses_orFail _ _) h₂ fun _ s₃ h₃ =>
    part (mayEnsure_offWire.ensureFabric ext config _) h₃ fun (_, _, _) s₄ h₄ =>
    part (uses_run_bind (uses_ask trivial) fun _ => uses_orFail _ _) h₄ fun _ s₅ h₅ =>
    part offWire_pickInterface h₅ fun (_, _, _) s₆ h₆ =>
    part (uses_run_bind (uses_ask trivial) fun _ => uses_orFail _ _) h₆ fun _ s₇ h₇ => operate _ _ _ s₇ h₇

end Harness

end MatterTimeCtl
