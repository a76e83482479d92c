/-
# MatterTimeCtl.Storage.WriteFault — a registry change fails exactly when one of its writes does.

What goes wrong in a run is in its moves.  A part that gives up on the first failed write, and on nothing
else, returns a value exactly if none of its moves is a failed write: one half is `StopsAtFault`, which composes
part by part, the other is what `Settled` says of a plan without faults.
-/
import MatterTimeCtl.Storage.Registry

namespace MatterTimeCtl

open Files Effect

/-- The move fails a call that writes. -/
def FailedWrite : (c : Call) → c.Move → Prop
  | .dir (.createAll _), m => m.choice ≠ .succeed
  | .file (.openTruncate _), m => m.choice ≠ .succeed
  | .file (.writeAll _ _), m => m.choice ≠ .succeed
  | .file (.syncAll _), m => m.choice ≠ .succeed
  | .file (.rename _ _), m => m.choice ≠ .succeed
  | _, _ => False

/-- The move fails a call that reads. -/
def FailedRead : (c : Call) → c.Move → Prop
  | .file (.readToString _), m => m.choice ≠ .succeed
  | _, _ => False

/-- Calls that write. -/
def Writes : Call → Prop
  | .dir (.createAll _) | .file (.openTruncate _) | .file (.writeAll _ _) | .file (.syncAll _) => True
  | .file (.rename _ _) => True
  | _ => False

theorem mayReplace_writes (d : Dir) (tmp path : Path) : MayReplace Writes d tmp path :=
  ⟨trivial, trivial, fun _ => trivial, trivial, trivial⟩

/-- A write that does not fail succeeds. -/
theorem faultless_of_writes {c : Call} {m : c.Move} (hc : Writes c) (h : ¬ FailedWrite c m) :
    Faultless c m.choice := by
  unfold Writes at hc
  split at hc
  · exact not_not.mp h
  · exact not_not.mp h
  · exact not_not.mp h
  · exact not_not.mp h
  · exact not_not.mp h
  · exact hc.elim

/-- Where neither a read nor a write fails, nothing goes wrong in a sync or a decommission. -/
theorem faultless_of_serves {c : Call} {m : c.Move} (hc : Serves c) (written : ¬ FailedWrite c m)
    (read : ¬ FailedRead c m) : Faultless c m.choice := by
  rcases hc with talk | onFiles
  · unfold Talk Talks at talk
    split at talk <;> trivial
  · unfold OnFiles at onFiles
    split at onFiles
    · exact not_not.mp read
    · exact not_not.mp written
    · exact not_not.mp written
    · exact not_not.mp written
    · exact not_not.mp written
    · exact not_not.mp written
    · exact onFiles.elim

section WriteFault

variable {ext : Externals} {plan : (c : Call) → c.Move → Prop}

/-- None of the moves fails a write. -/
def NoWriteFailed (tr : List (Event (planned ext plan))) : Prop := ∀ e ∈ tr, ¬ FailedWrite e.1 e.2

@[simp] theorem noWriteFailed_append (tr tr' : List (Event (planned ext plan))) :
    NoWriteFailed (tr ++ tr') ↔ NoWriteFailed tr ∧ NoWriteFailed tr' := List.forall_mem_append

/-- None of the moves fails a read. -/
def NoReadFailed (tr : List (Event (planned ext plan))) : Prop := ∀ e ∈ tr, ¬ FailedRead e.1 e.2

/-- The part returns a value only if no write failed. -/
def StopsAtFault (ext : Externals) (plan : (c : Call) → c.Move → Prop) {α : Type} (x : Action α) : Prop :=
  ∀ w, Traces (planned ext plan) x.run (fun r tr _ => (∃ a, r = .ok a) → NoWriteFailed tr) w

theorem StopsAtFault.bind {α β : Type} {x : Action α} {f : α → Action β} (hx : StopsAtFault ext plan x)
    (hf : ∀ a, StopsAtFault ext plan (f a)) : StopsAtFault ext plan (x >>= f) := by
  intro w
  refine (hx w).run_bind (fun a tr w₁ h => ?_) fun e tr w₁ _ => ?_
  · refine (hf a w₁).mono fun r tr' w₂ h' hr => ?_
    exact (noWriteFailed_append tr tr').mpr ⟨h ⟨a, rfl⟩, h' hr⟩
  · rintro ⟨b, hb⟩
    cases hb

/-- A write, given up on when it fails. -/
theorem stopsAtFault_write {c : Call} {α : Type} (f : IoError → Failure) (g : c.Answer → Except IoError α)
    (fails : ∀ w (m : c.Move), FailedWrite c m →
      ∃ e, g ((planned ext plan).answer c w m) = .error e) :
    StopsAtFault ext plan (ask c >>= fun r => orFail f (g r)) := by
  intro w
  rw [Effect.run_bind, run_ask, Program.call_bind, traces_call]
  intro m _
  refine traces_orFail.mpr ?_
  rintro ⟨a, ha⟩ e he
  obtain rfl := List.mem_singleton.mp he
  intro failed
  obtain ⟨cause, hcause⟩ := fails w m failed
  rw [hcause] at ha
  cases ha

/-- All failed writes look alike to the program. -/
theorem answer_failedWrite {c : Call} {w : World} {m : c.Move} (h : FailedWrite c m) :
    HEq ((planned ext plan).answer c w m) (.error .other : Except IoError Unit) := by
  obtain ⟨later, choice⟩ := m
  cases c with
  | file c =>
      cases c with
      | openTruncate p | writeAll p bytes | syncAll p | rename s t =>
          cases choice with
          | succeed => exact absurd rfl h
          | fail n => rfl
      | pathExists p | readToString p | read p | removeFile p => exact h.elim
  | dir c =>
      cases c with
      | createAll d =>
          cases choice with
          | succeed => exact absurd rfl h
          | fail n => rfl
      | «exists» d | createWithMode d mode | setPermissions d mode | readDir d => exact h.elim
  | _ => exact h.elim

/-- A write whose error ends the part. -/
theorem stopsAtFault_io {c : Call} (g : c.Answer → Except IoError Unit)
    (hg : ∀ a, HEq a (.error .other : Except IoError Unit) → g a = .error .other) :
    StopsAtFault ext plan (ask c >>= fun r => orFail .io (g r)) :=
  stopsAtFault_write .io g fun _ _ h => ⟨_, hg _ (answer_failedWrite h)⟩

theorem stopsAtFault_writePrivate (path : Path) (bytes : ByteArray) :
    StopsAtFault ext plan (writePrivate path bytes) := by
  have truncated : StopsAtFault ext plan (ask (.file (.openTruncate path)) >>= orFail .io) :=
    stopsAtFault_io (c := .file (.openTruncate path)) id fun _ => eq_of_heq
  have written : ∀ bytes, StopsAtFault ext plan (ask (.file (.writeAll path bytes)) >>= orFail .io) :=
    fun bytes => stopsAtFault_io (c := .file (.writeAll path bytes)) id fun _ => eq_of_heq
  have synced : StopsAtFault ext plan (ask (.file (.syncAll path)) >>= orFail .io) :=
    stopsAtFault_io (c := .file (.syncAll path)) id fun _ => eq_of_heq
  exact truncated.bind fun _ => (written _).bind fun _ => (written _).bind fun _ => synced

theorem stopsAtFault_store {α : Type} (json : Codec α) (path : Path) (value : α) :
    StopsAtFault ext plan (store json path value) := by
  have created : StopsAtFault ext plan (ask (.dir (.createAll path.dir)) >>= orFail .io) :=
    stopsAtFault_io (c := .dir (.createAll path.dir)) id fun _ => eq_of_heq
  have renamed : StopsAtFault ext plan
      (ask (.file (.rename (withExtension path "json.tmp") path)) >>= orFail .io) :=
    stopsAtFault_io (c := .file (.rename (withExtension path "json.tmp") path)) id fun _ => eq_of_heq
  exact created.bind fun _ => (stopsAtFault_writePrivate _ _).bind fun _ => renamed

/-! ## Exactly if no write failed -/

/-- The part returns a value exactly if no write failed. -/
def WriteBound (ext : Externals) (plan : (c : Call) → c.Move → Prop) {α : Type} (x : Action α) : Prop :=
  ∀ w, Traces (planned ext plan) x.run (fun r tr _ => (∃ a, r = .ok a) ↔ NoWriteFailed tr) w

theorem WriteBound.bind {α β : Type} {x : Action α} {f : α → Action β} (hx : WriteBound ext plan x)
    (hf : ∀ a, WriteBound ext plan (f a)) : WriteBound ext plan (x >>= f) := by
  intro w
  refine (hx w).run_bind (fun a tr w₁ h => ?_) fun e tr w₁ h => ?_
  · refine (hf a w₁).mono fun r tr' w₂ h' => ?_
    rw [noWriteFailed_append, ← h, ← h']
    exact ⟨fun hr => ⟨⟨a, rfl⟩, hr⟩, fun hr => hr.2⟩
  · rw [← h]
    constructor <;> rintro ⟨b, hb⟩ <;> cases hb

/-- A part that neither fails nor writes. -/
theorem writeBound_of_succeeds {α : Type} {x : Action α} {P : Call → Prop} (hx : Succeeds x)
    (uses : x.run.Uses P) (hP : ∀ c (m : c.Move), P c → ¬ FailedWrite c m) : WriteBound ext plan x :=
  fun w => ((Traces.of_returns hx w).and (Traces.of_uses uses w)).mono fun _ _ _ h =>
    ⟨fun _ e he => hP e.1 e.2 (h.2 e he), fun _ => h.1⟩

theorem writeBound_pure {α : Type} (a : α) : WriteBound ext plan (pure a : Action α) :=
  writeBound_of_succeeds (P := fun _ => False) (.pure a) (uses_run_pure a) fun _ _ h => h.elim

theorem Talks.not_failedWrite {R : Request → Prop} {c : Call} (h : Talks R c) (m : c.Move) :
    ¬ FailedWrite c m := by
  intro failed
  unfold FailedWrite at failed
  split at failed <;> first | exact h.elim | exact failed

/-- A part that never fails and only talks. -/
theorem writeBound_of_talk {α : Type} {x : Action α} (hx : Succeeds x) (talks : x.run.Uses Talk) :
    WriteBound ext plan x :=
  writeBound_of_succeeds hx talks fun _ m h => Talks.not_failedWrite h m

theorem succeeds_attempt {α : Type} (x : Action α) : Succeeds (attempt x) :=
  (Program.returns_trivial x.run).bind fun r _ => Program.returns_done.mpr ⟨r, rfl⟩

theorem writeBound_store {α : Type} {path : Path} (ht : ¬ IsState (withExtension path "json.tmp"))
    (json : Codec α) (value : α) : WriteBound ext plan (store json path value) := by
  intro w
  refine traces_of_exec fun tr r w' hx => ⟨(stopsAtFault_store json path value w).result hx, fun sound => ?_⟩
  have writes := (Traces.of_uses (uses_store json (mayReplace_writes _ _ _) value) w).result hx
  -- the same run, where nothing can go wrong
  have hx' := hx.narrow (P := fun (c : Call) (m : c.Move) => Faultless c m.choice) fun e he =>
    faultless_of_writes (writes e he) (sound e he)
  have settled : Settled (fun c m => plan c m ∧ Faultless c m.choice) w _ r w' :=
    (store_atomic ht json value w).result hx'
  cases r with
  | ok u => exact ⟨u, rfl⟩
  | error e => exact absurd (fun _ _ h => h.2) settled.2

theorem writeBound_loadOrDefault : WriteBound ext plan (loadOrDefault ext devicesPath) := by
  refine writeBound_of_succeeds ((Succeeds.ask _).bind fun _ => .pure _)
    (looks_loadOrDefault ext devicesPath) fun c m hc failed => ?_
  unfold FailedWrite at failed
  split at failed <;> first | exact hc.elim | exact failed

/-- **A change of the registry** succeeds exactly if none of its writes fails. -/
theorem writeBound_updateDevice (nodeId : NodeId) (patch : Patch) :
    WriteBound ext plan (updateDevice ext devicesPath nodeId patch.run) :=
  writeBound_loadOrDefault.bind fun _ =>
    (writeBound_of_talk (patch.succeeds _) (patch.talks _)).bind fun _ =>
      writeBound_store not_isState_devicesTmp _ _

theorem writeBound_removeDevice (nodeId : NodeId) :
    WriteBound ext plan (removeDevice ext devicesPath nodeId) :=
  writeBound_loadOrDefault.bind fun _ => writeBound_store not_isState_devicesTmp _ _

end WriteFault

end MatterTimeCtl
