/-
# MatterTimeCtl.Storage.CleanRegistry — what device texts get into the registry.

The registry keeps texts that came from devices: their names, and what was said of the last failed sync.  Names are
sanitized before they are recorded, and the texts of failures are put together from contained ones, so a registry
whose texts are contained stays one: at every point of every run of every command, wherever the run stops.
-/
import MatterTimeCtl.Storage.Operate
import MatterTimeCtl.Controller.Outcomes

namespace MatterTimeCtl

open Files Effect

/-! ## Clean records -/

/-- The texts of a record are contained. -/
structure CleanRecord (own : Char → Prop) (d : DeviceRecord) : Prop where
  vendorName : OptContained own d.vendorName
  productName : OptContained own d.productName
  lastError : OptContained own d.lastError

def CleanDevices (own : Char → Prop) (devices : Devices) : Prop :=
  ∀ (key : String) record, devices.nodes[key]? = some record → CleanRecord own record

/-- The registry on disk is clean. -/
def CleanRegistry (own : Char → Prop) (ext : Externals) (w : World) : Prop := CleanDevices own (w.registry ext)

section Clean

variable {own : Char → Prop}

theorem cleanRecord_empty : CleanRecord own {} := ⟨contained_optNone, contained_optNone, contained_optNone⟩

theorem cleanDevices_empty : CleanDevices own {} := by
  intro key record h
  rw [show ({} : Devices).nodes[key]? = none from Std.ExtTreeMap.getElem?_empty] at h
  cases h

theorem CleanDevices.getD {devices : Devices} (h : CleanDevices own devices) (key : String) :
    CleanRecord own (devices.nodes.getD key {}) := by
  rw [Std.ExtTreeMap.getD_eq_getD_getElem?]
  cases hkey : devices.nodes[key]? with
  | none => exact cleanRecord_empty
  | some record => exact h key record hkey

theorem CleanDevices.insert {devices : Devices} (h : CleanDevices own devices) {record : DeviceRecord}
    (clean : CleanRecord own record) (key : String) :
    CleanDevices own { nodes := devices.nodes.insert key record } := by
  intro key' record' hget
  by_cases hkey : key' = key
  · subst hkey
    rw [Std.ExtTreeMap.getElem?_insert_self] at hget
    cases hget
    exact clean
  · rw [getElem?_insert_of_ne hkey] at hget
    exact h key' record' hget

theorem CleanDevices.erase {devices : Devices} (h : CleanDevices own devices) (key : String) :
    CleanDevices own { nodes := devices.nodes.erase key } := by
  intro key' record' hget
  rw [Std.ExtTreeMap.getElem?_erase] at hget
  split at hget
  · cases hget
  · exact h key' record' hget

end Clean

/-! ## Changes of the registry -/

section Changes

variable {own : Char → Prop} {ext : Externals} {plan : (c : Call) → c.Move → Prop} {w w' : World}

theorem stable_clean : Stable (CleanRegistry own ext) := by
  intro w w' same h
  rwa [CleanRegistry, same.registry]

/-- What is read of a clean registry is clean; a read that fails shows no records. -/
theorem Reads.clean {raw : Except IoError String} (read : Reads plan w.files devicesPath raw)
    (hw : CleanRegistry own ext w) : CleanDevices own (registryOf ext raw) := by
  obtain ⟨⟨later, io⟩, -, rfl⟩ := read
  cases io with
  | succeed => exact hw
  | fail n => exact cleanDevices_empty

theorem CleanRegistry.changed {change : Devices → Devices → Prop} (hw : CleanRegistry own ext w)
    (keeps : ∀ old new, CleanDevices own old → change old new → CleanDevices own new)
    (h : RegistryChanged ext plan w change w') : CleanRegistry own ext w' := by
  obtain ⟨raw, devices, read, hchange, rfl⟩ := h
  rw [CleanRegistry, World.registry_put]
  exact keeps _ _ (read.clean hw) hchange

/-- An update whose patch keeps a record clean. -/
theorem updateDevice_clean {nodeId : NodeId} {patch : DeviceRecord → Action DeviceRecord}
    (talks : ∀ d, (patch d).run.Uses Talk)
    (clean : ∀ d, CleanRecord own d → Delivers (CleanRecord own) (patch d)) (hw : CleanRegistry own ext w) :
    Safe (planned ext plan) (CleanRegistry own ext) (updateDevice ext devicesPath nodeId patch).run
      (fun _ => CleanRegistry own ext) w := by
  -- the patch starts from the record of the node, or from the empty one
  have patched : ∀ old new, CleanDevices own old → Devices.Patched nodeId patch old new →
      CleanDevices own new := by
    rintro old _ hold ⟨record, yields, rfl⟩
    have delivered := Program.Returns.of_yields (clean _ (hold.getD _)) yields
    exact hold.insert (delivered record rfl) _
  have keeps : ∀ w', w.Same w' ∨ SeenChanged ext plan w (Devices.Patched nodeId patch) w' →
      CleanRegistry own ext w' := by
    rintro w' (same | ⟨w₁, changed, same⟩)
    · exact stable_clean same hw
    · exact stable_clean same (hw.changed patched changed)
  exact (updateDevice_patched nodeId talks w).mono keeps fun _ w' h _ => keeps w' h

/-- Ensuring the fabric leaves the registry alone. -/
theorem EnsureSeen.registry {config : Config} {fabrics : List Fabric} {w₁ : World}
    (h : EnsureSeen ext plan config fabrics w w₁) : w₁.registry ext = w.registry ext := by
  have cleared : ∀ {rest : List Fabric} {w₀ : World}, Cleared ext plan fabrics w rest w₀ →
      w₀.registry ext = w.registry ext := by
    intro rest w₀ h
    cases h with
    | fresh _ => rfl
    | discarded _ _ _ => exact World.registry_remove w _
  cases h with
  | untouched => rfl
  | relabelled _ _ _ => exact World.registry_install w _
  | cleared h => exact cleared h
  | installed h _ => rw [World.registry_install, cleared h.cleared]
  | complete h _ =>
      rw [World.complete, World.registry_put_of_ne _ devices_ne_identity, World.registry_install,
        cleared h.cleared]

end Changes

/-! ## The operations -/

section Operations

variable {own : Char → Prop} {ext : Externals} {plan : (c : Call) → c.Move → Prop} {ctx : Ctx} {w : World}

/-- Calls that are none on files. -/
def NoFile : Call → Prop
  | .file _ => False
  | _ => True

theorem files_next {c : Call} (h : NoFile c) (w : World) (m : c.Move) :
    ((planned ext plan).next c w m).files = w.files := by
  obtain ⟨later, choice⟩ := m
  show (callEffect ext w later c choice).files = w.files
  cases c with
  | file _ => exact h.elim
  | dir c =>
      show (dirEffect w c choice).files = w.files
      unfold dirEffect
      split <;> rfl
  | timed secs future =>
      cases future with
      | initiate nodeId => rfl
      | commission peer passcode nodeId => rfl
      | completeViaCase peer fabric nodeId =>
          obtain ⟨processed, reply⟩ := choice
          cases processed <;> rfl
  | wire nodeId r =>
      show (wireEffect w nodeId r choice).files = w.files
      unfold wireEffect
      split <;> rfl
  | _ => rfl

theorem registry_next {c : Call} (h : NoFile c) (w : World) (m : c.Move) :
    ((planned ext plan).next c w m).registry ext = w.registry ext := by
  simp only [World.registry, readText, files_next h w m]

theorem noFile_join (onboarding : Onboarding) : (CommissionOp.join ctx onboarding).run.Uses NoFile := by
  unfold CommissionOp.join
  refine uses_run_bind (uses_run_bind (uses_ask trivial) fun _ => uses_orFail _ _) fun peer => ?_
  refine uses_run_bind (uses_orFail _ _) fun key => ?_
  refine uses_run_bind (uses_run_bind (uses_ask trivial) fun _ => uses_orFail _ _) fun _ => ?_
  refine uses_run_bind (uses_withTimeout trivial _) fun _ => ?_
  split
  · exact uses_run_bind (uses_run_throw _) fun _ => uses_run_pure _
  · exact uses_run_bind (uses_withTimeout trivial _) fun _ => uses_run_pure _

/-- Joining writes nothing; then the names are recorded. -/
theorem commissionOp_clean (onboarding : Onboarding) (hw : CleanRegistry own ext w) :
    Safe (planned ext plan) (CleanRegistry own ext) (CommissionOp.run ext ctx onboarding).run
      (fun _ => CleanRegistry own ext) w := by
  have step : ∀ c w m, NoFile c → (planned ext plan).admits c w m → CleanRegistry own ext w →
      CleanRegistry own ext ((planned ext plan).next c w m) := by
    intro c w m h _ hw
    have same : ((planned ext plan).next c w m).registry ext = w.registry ext := registry_next h w m
    rwa [CleanRegistry, same]
  unfold CommissionOp.run
  refine (Safe.of_uses (noFile_join onboarding) step hw).run_bind (fun _ h => h)
    (fun deviceNodeId w₁ h₁ _ => ?_) fun _ _ h _ => h
  unfold CommissionOp.record
  have read : Delivers (CleanNames own) _ := delivers_readDeviceNames ext ctx deviceNodeId
  have unchanged : Safe (planned ext plan) (CleanRegistry own ext) (readDeviceNames ext ctx deviceNodeId).run
      (fun _ => CleanRegistry own ext) w₁ :=
    stable_clean.talk (talk_readDeviceNames ext ctx deviceNodeId trivial trivial) h₁
  refine (unchanged.and_returns read).run_bind (fun _ h => h)
    (fun (vendorName, productName) w₂ h₂ delivered => ?_) fun _ _ h _ => h
  obtain ⟨vendor, product⟩ := delivered.2 _ rfl
  refine (updateDevice_clean ?_ ?_ h₂).run_bind (fun _ h => h) (fun _ w₃ h₃ _ => ?_) fun _ _ h _ => h
  · exact fun _ => uses_run_bind (uses_ask (c := .now) trivial) fun _ => uses_run_pure _
  · exact fun d clean => delivers_bind fun now => delivers_pure ⟨vendor, product, clean.lastError⟩
  -- the identity is another file
  have kept : ∀ (identity : Identity) w', w₃.Same w' ∨
      (w₃.put identityPath (jsonFile ext.identityJson identity)).Same w' → CleanRegistry own ext w' := by
    rintro identity w' (same | same)
    · exact stable_clean same h₃
    · refine stable_clean same ?_
      rwa [CleanRegistry, World.registry_put_of_ne _ devices_ne_identity]
  refine (store_atomic not_isState_identityTmp ext.identityJson _ w₃).run_bind (kept _)
    (fun _ w₄ h₄ _ => ?_) fun _ _ h _ => kept _ _ h
  exact safe_run_pure.mpr ⟨kept _ _ h₄, kept _ _ h₄⟩

/-- One target of a sync: what is recorded of a failure is what the outcome says of it. -/
theorem syncStep_clean (host : HostTexts own ext ctx.config) (manualTime : Option MatterMicros)
    (nodeId : NodeId) (hw : CleanRegistry own ext w) :
    Safe (planned ext plan) (CleanRegistry own ext) (SyncOp.step ext ctx manualTime nodeId).run
      (fun _ => CleanRegistry own ext) w := by
  unfold SyncOp.step
  refine (updateDevice_clean ?_ ?_ hw).run_bind (fun _ h => h) (fun _ w₁ h₁ _ => ?_) fun _ _ h _ => h
  · exact fun _ => uses_run_bind (uses_ask (c := .now) trivial) fun _ => uses_run_pure _
  · exact fun d clean => delivers_bind fun now =>
      delivers_pure ⟨clean.vendorName, clean.productName, clean.lastError⟩
  have delivered : Delivers (fun o => OptContained own o.error) (syncOne ext ctx nodeId manualTime) :=
    delivers_syncOne ext ctx nodeId manualTime
  have texts := Program.Returns.and delivered
    (failsOnly_syncOne host.failureClass ext ctx nodeId manualTime)
  refine ((stable_clean.talk (talk_syncOne ext ctx nodeId manualTime) h₁).and_returns texts).attempt_bind
    (fun _ h => h) fun r w₂ h₂ hr => ?_
  have error : OptContained own (SyncOp.outcomeOf ext ctx nodeId r).error := contained_outcomeOf hr.2.1 hr.2.2
  dsimp only
  refine (updateDevice_clean (talk_noteOutcome _) (fun d clean => ?_) h₂).run_bind (fun _ h => h)
    (fun _ w₃ h₃ _ => ?_) fun _ _ h _ => h
  · unfold SyncOp.noteOutcome
    split
    · exact delivers_bind fun _ => delivers_bind fun _ =>
        delivers_pure ⟨clean.vendorName, clean.productName, contained_optNone⟩
    · exact delivers_pure ⟨clean.vendorName, clean.productName, error⟩
  · exact stable_clean.then (fun _ h => h) ((talk_logOutcome _ _).mono fun _ => Talks.quiet)
      (fun _ _ h => h) (fun _ w₄ h₄ => safe_run_pure.mpr ⟨h₄, h₄⟩) h₃

/-- By induction on the targets. -/
theorem syncOp_clean (host : HostTexts own ext ctx.config) (manualTime : Option MatterMicros)
    (targets : List NodeId) (hw : CleanRegistry own ext w) :
    Safe (planned ext plan) (CleanRegistry own ext) (SyncOp.run ext ctx manualTime targets).run
      (fun _ => CleanRegistry own ext) w := by
  induction targets generalizing w with
  | nil => exact safe_run_pure.mpr ⟨hw, hw⟩
  | cons nodeId targets ih =>
      unfold SyncOp.run
      refine (syncStep_clean host manualTime nodeId hw).run_bind (fun _ h => h) (fun _ w₁ h₁ _ => ?_)
        fun _ _ h _ => h
      exact (ih h₁).run_bind (fun _ h => h) (fun _ w₂ h₂ _ => safe_run_pure.mpr ⟨h₂, h₂⟩) fun _ _ h _ => h

theorem decommissionOp_clean (targets : List NodeId) (hw : CleanRegistry own ext w) :
    Safe (planned ext plan) (CleanRegistry own ext) (DecommissionOp.run ext ctx targets).run
      (fun _ => CleanRegistry own ext) w := by
  have survives : SurvivesChange ext plan (CleanRegistry own ext) targets Devices.Erased := by
    refine fun nodeId _ w w₁ hw changed => hw.changed ?_ changed
    rintro old _ hold rfl
    exact hold.erase _
  exact (decommissionOp_keeps stable_clean survives hw).mono (fun _ h => h) fun _ _ h _ => h

theorem inspectOp_clean (targets : List NodeId) (hw : CleanRegistry own ext w) :
    Safe (planned ext plan) (CleanRegistry own ext) (InspectOp.run ext ctx targets).run
      (fun _ => CleanRegistry own ext) w :=
  stable_clean.talk (talk_inspect ext ctx targets) hw

end Operations

/-! ## Whole runs -/

section Runs

variable {own : Char → Prop} {ext : Externals} {plan : (c : Call) → c.Move → Prop} {config : Config} {w : World}

/-- Every operation keeps the registry clean. -/
theorem runKeeps_clean (host : HostTexts own ext config) (op : Op) :
    RunKeeps ext plan config (CleanRegistry own ext) (CleanRegistry own ext) op fun _ _ => True where
  stable := stable_clean
  stable' := stable_clean
  imp _ h := h
  ensure hw _ seen := by rwa [CleanRegistry, seen.registry]
  operate := by
    intro loaded w w₁ fabrics fabIdx identity w' hw _ hok same
    have clean : CleanRegistry own ext w' := by
      refine stable_clean same ?_
      rwa [CleanRegistry, hok.seen.registry]
    have kept : Safe (planned ext plan) (CleanRegistry own ext)
        (runOp ext { fabrics, fabIdx, identity, config } op).run (fun _ => CleanRegistry own ext) w' := by
      cases op with
      | commission onboarding => exact commissionOp_clean onboarding clean
      | sync targets manualTime => exact syncOp_clean host manualTime targets clean
      | decommission targets => exact decommissionOp_clean targets clean
      | inspect targets => exact inspectOp_clean targets clean
    exact kept.mono (fun _ h => h) fun _ _ _ _ => trivial
  error _ _ := trivial
  report _ _ hw _ := hw

theorem runInspect_clean (host : HostTexts own ext config) (target : Option NodeId)
    (hw : CleanRegistry own ext w) :
    Safe (planned ext plan) (CleanRegistry own ext) (runInspect ext config target).run
      (fun _ => CleanRegistry own ext) w := by
  refine stable_clean.then (fun _ h => h) ((looks_resolveOrEmpty ext target).mono fun _ h => h.outside.quiet)
    (fun _ _ h => h) (fun targets w₁ h₁ => ?_) hw
  split
  · exact safe_run_pure.mpr ⟨h₁, h₁⟩
  · exact (run_safe (runKeeps_clean host (.inspect targets)) h₁).run_bind (fun _ h => h)
      (fun _ _ h _ => safe_run_pure.mpr ⟨h, h⟩) fun _ _ h _ => h

/-- The runs of the commands on hosts whose own texts are contained. -/
def HostRuns (own : Char → Prop) (ext : Externals) (p : Prog (Except Failure Output)) : Prop :=
  ∃ config command, HostTexts own ext config ∧ p = (runCommand ext config command).run

/-- **The registry stays clean** at every point of every command. -/
theorem hostRuns_clean {p : Prog (Except Failure Output)} (hp : HostRuns own ext p)
    (hw : CleanRegistry own ext w) :
    Safe (planned ext plan) (CleanRegistry own ext) p (fun _ _ => True) w := by
  obtain ⟨config, command, host, rfl⟩ := hp
  have keeps : Safe (planned ext plan) (CleanRegistry own ext) (runCommand ext config command).run
      (fun _ => CleanRegistry own ext) w := by
    -- `status` and the search for targets only look; the rest is a run of an operation
    cases command with
    | status filter => exact stable_clean.outside ((looks_status ext config filter).mono fun _ h => h.outside) hw
    | sync target time =>
        exact runSync_safe (Q := fun _ _ => True) (fun targets manualTime => runKeeps_clean host _) hw
    | commission onboarding => exact runCommission_safe (runKeeps_clean host _) hw
    | decommission target =>
        exact runDecommission_safe (Q := fun _ _ => True) (fun targets => runKeeps_clean host _) hw
    | inspect target => exact runInspect_clean host target hw
  exact keeps.mono (fun _ h => h) fun _ _ _ _ => trivial

theorem clean_of_sessions {w₀ : World} (runs : Sessions (planned ext plan) (HostRuns own ext) w₀ w)
    (h : CleanRegistry own ext w₀) : CleanRegistry own ext w :=
  Effect.Sessions.invariant (fun _ hp _ hw => hostRuns_clean hp hw) runs h

end Runs

end MatterTimeCtl
