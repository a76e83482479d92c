/-
# MatterTimeCtl.Storage.Operate — what the operations leave on disk.

Commissioning has five worlds to show to a later run: nothing done, the node id assigned, the device
joined, its record written, the counter moved on.  Sync and decommission only ever change the registry,
one record of one of their targets at a time, so whatever survives such a change survives the operation.
-/
import MatterTimeCtl.Storage.Run

namespace MatterTimeCtl

open Files Effect

/-! ## The registry on disk -/

/-- The identity file reads as this identity. -/
def HasIdentity (ext : Externals) (w : World) (identity : Identity) : Prop :=
  ∃ text, readText w.files identityPath = .ok text ∧ ext.identityJson.decode text = .ok identity

/-- Storage before the first run. -/
structure Virgin (w : World) : Prop where
  files : ∀ p, IsState p → w.files p = none
  history : w.history = {}

section Registry

variable {ext : Externals} {w w' : World}

theorem World.SameOn.registry (h : w.Same w') : w'.registry ext = w.registry ext := by
  simp only [World.registry, readText, h.at_ isState_devices]

theorem World.registry_put (w : World) (devices : Devices) :
    (w.put devicesPath (jsonFile ext.devicesJson devices)).registry ext = devices := by
  have hread : readText (w.put devicesPath (jsonFile ext.devicesJson devices)).files devicesPath =
      .ok (ext.devicesJson.encode devices ++ "\n") := readText_jsonFile (World.put_files_self ..)
  rw [World.registry, hread, registryOf, ext.devicesJson.decode_encode]

theorem World.registry_put_of_ne (w : World) {p : Path} (h : devicesPath ≠ p) (bytes : ByteArray) :
    (w.put p bytes).registry ext = w.registry ext := by
  simp only [World.registry, readText, World.put_files_of_ne w h]

theorem registry_of_absent (ext : Externals) (h : w.files devicesPath = none) :
    (w.registry ext).nodes.isEmpty = true := by
  rw [World.registry, readText_none h, registryOf]
  exact Std.ExtTreeMap.isEmpty_empty

theorem World.registry_remove (w : World) (i : FabIdx) :
    (w.remove ext (fabricPath ext i)).registry ext = w.registry ext := by
  simp only [World.registry, readText, World.remove_files_of_ne ext w (devices_ne_fabric i)]

theorem World.registry_install (w : World) (f : Fabric) :
    (w.install ext f).registry ext = w.registry ext :=
  World.registry_put_of_ne w (devices_ne_fabric _) _

theorem World.install_history (ext : Externals) (w : World) (f : Fabric) : (w.install ext f).history = w.history := by
  rw [World.install, World.put, if_neg (identity_ne_fabric f.fabIdx).symm]

theorem World.install_identity (w : World) (f : Fabric) :
    (w.install ext f).files identityPath = w.files identityPath :=
  World.put_files_of_ne w (identity_ne_fabric _) _

/-- A read of the registry never shows a record that is not on disk. -/
theorem Reads.registry_subset {plan : (c : Call) → c.Move → Prop} {raw : Except IoError String}
    (h : Reads plan w.files devicesPath raw) {key : String}
    (hkey : key ∈ (registryOf ext raw).nodes) : key ∈ (w.registry ext).nodes := by
  obtain ⟨⟨later, io⟩, -, rfl⟩ := h
  cases io with
  | succeed => exact hkey
  | fail n => simp [FileCall.answer, registryOf] at hkey

end Registry

/-! ## Assigning and joining -/

section Joining

variable {w w' : World}

theorem World.SameOn.assign (ext : Externals) (h : w.Same w') (nodeId : NodeId) :
    (w.assign ext nodeId).Same (w'.assign ext nodeId) := by
  refine ⟨h.files, ?_⟩
  simp only [World.assign, h.registry, h.history]

theorem World.SameOn.join (h : w.Same w') (nodeId : NodeId) (f : Fabric) :
    (w.join nodeId f).Same (w'.join nodeId f) := by
  refine ⟨h.files, ?_⟩
  simp only [World.join, h.history]

/-- A device is assigned a node id and joins the fabric under it. -/
def World.enroll (ext : Externals) (w : World) (nodeId : NodeId) (f : Fabric) : World :=
  (w.assign ext nodeId).join nodeId f

end Joining

section Operations

variable {ext : Externals} {plan : (c : Call) → c.Move → Prop} {ctx : Ctx}

/-! ## Commission -/

/-- The fabric an operation works on. -/
def Ctx.fabric? (ctx : Ctx) : Option Fabric := ctx.fabrics.find? (·.fabIdx = ctx.fabIdx)

/-- The identity once the counter has moved on. -/
def Identity.counted (identity : Identity) : Identity :=
  { identity with nextDeviceNodeId := identity.nextDeviceNodeId + 1 }

/-- The worlds a later run can see of a commissioning, from the assignment of the node id on. -/
inductive CommissionSeen (ext : Externals) (plan : (c : Call) → c.Move → Prop) (ctx : Ctx)
    (w : World) : World → Prop where
  | untouched : CommissionSeen ext plan ctx w w
  | assigned : CommissionSeen ext plan ctx w (w.assign ext ctx.identity.nextDeviceNodeId)
  | joined {f : Fabric} (found : ctx.fabric? = some f) :
      CommissionSeen ext plan ctx w (w.enroll ext ctx.identity.nextDeviceNodeId f)
  | recorded {f : Fabric} {w₁ : World} (found : ctx.fabric? = some f)
      (changed : RegistryChanged ext plan (w.enroll ext ctx.identity.nextDeviceNodeId f)
        (Devices.Inserted ctx.identity.nextDeviceNodeId) w₁) :
      CommissionSeen ext plan ctx w w₁
  | counted {f : Fabric} {w₁ : World} (found : ctx.fabric? = some f)
      (changed : RegistryChanged ext plan (w.enroll ext ctx.identity.nextDeviceNodeId f)
        (Devices.Inserted ctx.identity.nextDeviceNodeId) w₁) :
      CommissionSeen ext plan ctx w
        (w₁.put identityPath (jsonFile ext.identityJson ctx.identity.counted))

/-- A later run sees one of the worlds of the commissioning. -/
def SeenInCommission (ext : Externals) (plan : (c : Call) → c.Move → Prop) (ctx : Ctx)
    (w w' : World) : Prop :=
  ∃ w₁, CommissionSeen ext plan ctx w w₁ ∧ w₁.Same w'

theorem seen_untouched {w w' : World} (h : w.Same w') : SeenInCommission ext plan ctx w w' :=
  ⟨w, .untouched, h⟩

/-- The first commissioning phase: the device gets the certificate for its node id. -/
theorem commissionPhase_spec (peer : PeerAddr) (passcode : UInt32) (w : World) (what : String)
    (secs : Nat) (nodeId : NodeId) :
    Safe (planned ext plan) (fun w' => w.Same w' ∨ (w.assign ext nodeId).Same w')
      (withTimeout what secs (.commission peer passcode nodeId)).run
      (fun _ w' => (w.assign ext nodeId).Same w') w := by
  unfold withTimeout
  refine Safe.ask_bind (.inl (.refl w)) fun m _ => ?_
  have assigned : (w.assign ext nodeId).Same ((planned ext plan).next
      (.timed secs (.commission peer passcode nodeId)) w m) := same_clock (.refl _) _
  split
  · exact safe_orFail.mpr ⟨.inr assigned, assigned⟩
  · exact safe_run_throw.mpr ⟨.inr assigned, assigned⟩

/-- The second phase: the device joins, whether or not its answer arrives; when the phase succeeds it
has joined. -/
theorem completePhase_spec (peer : PeerAddr) (f : Fabric) (w : World) (what : String) (secs : Nat)
    (nodeId : NodeId) :
    Safe (planned ext plan) (fun w' => w.Same w' ∨ (w.join nodeId f).Same w')
      (withTimeout what secs (.completeViaCase peer f nodeId)).run
      (fun r w' => r = .ok () → (w.join nodeId f).Same w') w := by
  unfold withTimeout
  refine Safe.ask_bind (.inl (.refl w)) fun ⟨later, processed, reply⟩ admitted => ?_
  obtain ⟨⟨-, -, -, delivered⟩, -⟩ := admitted
  cases processed with
  | none =>
      have kept : w.Same ((planned ext plan).next (.timed secs (.completeViaCase peer f nodeId)) w
          ⟨later, none, reply⟩) := same_clock (.refl w) later
      -- a success would mean that the request was processed
      cases reply with
      | none => exact safe_run_throw.mpr ⟨.inl kept, nofun⟩
      | some result =>
          cases result with
          | error e => exact safe_run_throw.mpr ⟨.inl kept, nofun⟩
          | ok _ => exact absurd rfl (delivered rfl)
  | some at_ =>
      have joined : (w.join nodeId f).Same ((planned ext plan).next
          (.timed secs (.completeViaCase peer f nodeId)) w ⟨later, some at_, reply⟩) :=
        same_clock (.refl _) later
      split
      · exact safe_orFail.mpr ⟨.inr joined, fun _ => joined⟩
      · exact safe_run_throw.mpr ⟨.inr joined, fun _ => joined⟩

theorem join_spec (onboarding : Onboarding) (w : World) :
    Safe (planned ext plan) (SeenInCommission ext plan ctx w) (CommissionOp.join ctx onboarding).run
      (fun r w' => ∀ nodeId, r = .ok nodeId → nodeId = ctx.identity.nextDeviceNodeId ∧
        ∃ f, ctx.fabric? = some f ∧ (w.enroll ext nodeId f).Same w') w := by
  have quiet : Stable w.Same := fun _ _ hs h => h.trans hs
  have imp : ∀ w', w.Same w' → SeenInCommission ext plan ctx w w' := fun _ => seen_untouched
  -- up to the phase that assigns the node id nothing on disk or in the history changes
  unfold CommissionOp.join
  refine quiet.then imp (uses_run_bind (uses_ask (c := .browse _ _) (by trivial)) fun _ =>
    uses_orFail _ _) (fun _ _ _ _ => error_ne_ok) (fun peer w₁ h₁ => ?_) (.refl w)
  dsimp only
  refine quiet.then imp (uses_orFail _ _) (fun _ _ _ _ => error_ne_ok) (fun privkey w₂ h₂ => ?_) h₁
  refine quiet.then imp (uses_run_bind (uses_ask (c := .crypto (.nocGeneratorNew _ _)) (by trivial))
    fun _ => uses_orFail _ _) (fun _ _ _ _ => error_ne_ok) (fun _ w₃ h₃ => ?_) h₂
  refine (commissionPhase_spec peer onboarding.passcode w₃ _ _ _).run_bind ?_ (fun _ w₄ _ h₄ => ?_)
    fun _ _ _ _ _ => error_ne_ok
  · rintro w' (h | h)
    · exact imp _ (h₃.trans h)
    · exact ⟨_, .assigned, (h₃.assign ext _).trans h⟩
  replace h₄ := (h₃.assign ext _).trans h₄
  -- what follows needs our fabric; without it the device has its node id and no more
  have hfabric : ctx.fabrics.find? (·.fabIdx = ctx.fabIdx) = ctx.fabric? := rfl
  simp only [hfabric]
  cases found : ctx.fabric? with
  | none => exact safe_run_throw.mpr ⟨⟨_, .assigned, h₄⟩, fun _ => error_ne_ok⟩
  | some f =>
      dsimp only
      refine (completePhase_spec peer f w₄ _ _ _).run_bind ?_ (fun _ w₅ seen h₅ => ?_)
        fun _ _ _ _ _ => error_ne_ok
      · rintro w' (h | h)
        · exact ⟨_, .assigned, h₄.trans h⟩
        · exact ⟨_, .joined found, (h₄.join _ f).trans h⟩
      · have joined := (h₄.join _ f).trans (h₅ rfl)
        refine safe_run_pure.mpr ⟨⟨_, .joined found, joined⟩, fun nodeId h => ?_⟩
        obtain rfl := Except.ok.inj h
        exact ⟨rfl, f, rfl, joined⟩

/-- **Everything a commissioning leaves on disk**, wherever it stops. -/
theorem commissionOp_spec (onboarding : Onboarding) (w : World) :
    Safe (planned ext plan) (SeenInCommission ext plan ctx w)
      (CommissionOp.run ext ctx onboarding).run (fun _ _ => True) w := by
  unfold CommissionOp.run
  refine (join_spec onboarding w).run_bind (fun _ h => h) (fun nodeId w₁ _ h => ?_)
    fun _ _ _ _ => trivial
  obtain ⟨rfl, f, found, h₁⟩ := h _ rfl
  -- three states can be seen: the device joined, its record written, the node id counted
  have joined : ∀ w', w₁.Same w' → SeenInCommission ext plan ctx w w' := fun w' h =>
    ⟨_, .joined found, h₁.trans h⟩
  unfold CommissionOp.record
  refine (safe_talk (talk_readDeviceNames ext ctx _ trivial trivial) w₁).run_bind joined
    (fun (vendorName, productName) w₂ h₂ _ => ?_) fun _ _ _ _ => trivial
  dsimp only
  have talks : ∀ d : DeviceRecord, (do
      let now ← ask .now
      return { d with vendorName, productName, lastSuccessfulConnection := some now } :
      Action DeviceRecord).run.Uses Talk := fun _ =>
    uses_run_bind (uses_ask (c := .now) trivial) fun _ => uses_run_pure _
  have recorded : ∀ w', SeenChanged ext plan w₂
      (Devices.Inserted ctx.identity.nextDeviceNodeId) w' →
      ∃ w₃, RegistryChanged ext plan (w.enroll ext ctx.identity.nextDeviceNodeId f)
        (Devices.Inserted ctx.identity.nextDeviceNodeId) w₃ ∧ w₃.Same w' := by
    rintro w' ⟨_, ⟨raw, devices, read, change, rfl⟩, h⟩
    have hs := h₁.trans h₂
    exact ⟨_, ⟨raw, devices, (Reads.same isState_devices hs).mp read, change, rfl⟩,
      (hs.put _ _).trans h⟩
  refine (updateDevice_spec _ talks w₂).run_bind ?_ (fun _ w₃ _ h₃ => ?_) fun _ _ _ _ => trivial
  · rintro w' (h | h)
    · exact joined w' (h₂.trans h)
    · obtain ⟨w₃, changed, h₃⟩ := recorded w' h
      exact ⟨w₃, .recorded found changed, h₃⟩
  obtain ⟨w₄, changed, h₄⟩ := recorded w₃ h₃
  refine (store_atomic not_isState_identityTmp ext.identityJson _ w₃).run_bind ?_
    (fun _ w₅ seen h₅ => ?_) fun _ _ _ _ => trivial
  · rintro w' (h | h)
    · exact ⟨w₄, .recorded found changed, h₄.trans h⟩
    · exact ⟨_, .counted found changed, (h₄.put _ _).trans h⟩
  · exact safe_run_pure.mpr ⟨⟨_, .counted found changed, (h₄.put _ _).trans h₅⟩, trivial⟩

/-! ## Sync and decommission -/

/-- The property survives a change to the record of any of these nodes. -/
def SurvivesChange (ext : Externals) (plan : (c : Call) → c.Move → Prop) (I : World → Prop)
    (targets : List NodeId) (change : NodeId → Devices → Devices → Prop) : Prop :=
  ∀ nodeId ∈ targets, ∀ w w₁, I w → RegistryChanged ext plan w (change nodeId) w₁ → I w₁

variable {I : World → Prop}

theorem SurvivesChange.tail {nodeId : NodeId} {targets : List NodeId}
    {change : NodeId → Devices → Devices → Prop}
    (h : SurvivesChange ext plan I (nodeId :: targets) change) :
    SurvivesChange ext plan I targets change := fun n hn => h n (List.mem_cons_of_mem _ hn)

theorem updateDevice_keeps (stable : Stable I) {nodeId : NodeId}
    (survives : ∀ w w₁, I w → RegistryChanged ext plan w (Devices.Inserted nodeId) w₁ → I w₁)
    {patch : DeviceRecord → Action DeviceRecord} (hpatch : ∀ d, (patch d).run.Uses Talk) {w : World}
    (hw : I w) :
    Safe (planned ext plan) I (updateDevice ext devicesPath nodeId patch).run (fun _ => I) w := by
  have keeps : ∀ w', w.Same w' ∨ SeenChanged ext plan w (Devices.Inserted nodeId) w' → I w' := by
    rintro w' (h | ⟨w₁, changed, h⟩)
    · exact stable h hw
    · exact stable h (survives w w₁ hw changed)
  exact (updateDevice_spec nodeId hpatch w).mono keeps fun _ w' h _ => keeps w' h

theorem talk_noteAttempt (d : DeviceRecord) : (do
    let now ← ask .now
    return { d with lastAttemptedSync := some now } : Action DeviceRecord).run.Uses Talk :=
  uses_run_bind (uses_ask (c := .now) trivial) fun _ => uses_run_pure _

/-- A step once the attempt is noted. -/
theorem syncAttempt_keeps (stable : Stable I) {nodeId : NodeId}
    (survives : ∀ w w₁, I w → RegistryChanged ext plan w (Devices.Inserted nodeId) w₁ → I w₁)
    (manualTime : Option MatterMicros) {w : World} (hw : I w) :
    Safe (planned ext plan) I (do
      let result ← attempt (syncOne ext ctx nodeId manualTime)
      let outcome := SyncOp.outcomeOf ext ctx nodeId result
      updateDevice ext devicesPath nodeId (SyncOp.noteOutcome outcome)
      SyncOp.logOutcome nodeId outcome.error
      return outcome : Action SyncOutcome).run (fun _ => I) w := by
  refine (stable.talk (talk_syncOne ext ctx nodeId manualTime) hw).attempt_bind (fun _ h => h)
    fun r w₁ h₁ _ => ?_
  dsimp only
  refine (updateDevice_keeps stable survives (talk_noteOutcome _) h₁).run_bind (fun _ h => h)
    (fun _ w₂ h₂ _ => ?_) fun _ _ h _ => h
  exact stable.then (fun _ h => h) ((talk_logOutcome _ _).mono fun _ => Talks.quiet)
    (fun _ _ h => h) (fun _ w₃ h₃ => safe_run_pure.mpr ⟨h₃, h₃⟩) h₂

theorem syncStep_keeps (stable : Stable I) {nodeId : NodeId}
    (survives : ∀ w w₁, I w → RegistryChanged ext plan w (Devices.Inserted nodeId) w₁ → I w₁)
    (manualTime : Option MatterMicros) {w : World} (hw : I w) :
    Safe (planned ext plan) I (SyncOp.step ext ctx manualTime nodeId).run (fun _ => I) w := by
  unfold SyncOp.step
  exact (updateDevice_keeps stable survives talk_noteAttempt hw).run_bind (fun _ h => h)
    (fun _ _ h₁ _ => syncAttempt_keeps stable survives manualTime h₁) fun _ _ h _ => h

/-- What survives an update of each target's record survives a sync. -/
theorem syncOp_keeps (stable : Stable I) (manualTime : Option MatterMicros) {targets : List NodeId}
    (survives : SurvivesChange ext plan I targets Devices.Inserted) {w : World} (hw : I w) :
    Safe (planned ext plan) I (SyncOp.run ext ctx manualTime targets).run (fun _ => I) w := by
  induction targets generalizing w with
  | nil => exact safe_run_pure.mpr ⟨hw, hw⟩
  | cons nodeId targets ih =>
      unfold SyncOp.run
      refine (syncStep_keeps stable (survives nodeId (List.mem_cons_self ..)) manualTime hw).run_bind
        (fun _ h => h) (fun _ w₁ h₁ _ => ?_) fun _ _ h _ => h
      exact (ih survives.tail h₁).run_bind (fun _ h => h)
        (fun _ w₂ h₂ _ => safe_run_pure.mpr ⟨h₂, h₂⟩) fun _ _ h _ => h

/-- No record under the node's key is on disk. -/
def Unregistered (ext : Externals) (nodeId : NodeId) (w : World) : Prop :=
  nodeKey nodeId ∉ (w.registry ext).nodes

theorem stable_unregistered (nodeId : NodeId) : Stable (Unregistered ext nodeId) := by
  intro w w' hs h
  rwa [Unregistered, hs.registry]

/-- Dropping a record brings none back. -/
theorem Unregistered.erased {n nodeId : NodeId} {w w₁ : World} (h : Unregistered ext n w ∨ n = nodeId)
    (changed : RegistryChanged ext plan w (Devices.Erased nodeId) w₁) : Unregistered ext n w₁ := by
  obtain ⟨raw, devices, read, rfl, rfl⟩ := changed
  rw [Unregistered, World.registry_put, Std.ExtTreeMap.mem_erase]
  rintro ⟨hne, hmem⟩
  rcases h with h | rfl
  · exact h (read.registry_subset hmem)
  · exact hne (by simp)

theorem decommissionStep_keeps (stable : Stable I) {nodeId : NodeId}
    (survives : ∀ w w₁, I w → RegistryChanged ext plan w (Devices.Erased nodeId) w₁ → I w₁)
    {w : World} (hw : I w) :
    Safe (planned ext plan) I (DecommissionOp.step ext ctx nodeId).run
      (fun r w' => I w' ∧ ∀ outcome, r = .ok outcome → outcome.nodeId = nodeId ∧
        (outcome.success = true → Unregistered ext nodeId w')) w := by
  unfold DecommissionOp.step
  refine (stable.talk (talk_decommissionOne ext ctx nodeId) hw).attempt_bind (fun _ h => h)
    fun r w₁ h₁ _ => ?_
  cases r with
  | error e =>
      refine stable.then (fun _ h => h) (uses_ask (c := .log _ _) (by trivial))
        (fun _ _ h => ⟨h, nofun⟩) (fun _ w₂ h₂ => safe_run_pure.mpr ⟨h₂, h₂, fun o ho => ?_⟩) h₁
      obtain rfl := Except.ok.inj ho
      exact ⟨rfl, nofun⟩
  | ok _ =>
      have keeps : ∀ w', w₁.Same w' ∨ SeenChanged ext plan w₁ (Devices.Erased nodeId) w' → I w' := by
        rintro w' (h | ⟨w₂, changed, h⟩)
        · exact stable h h₁
        · exact stable h (survives w₁ w₂ h₁ changed)
      refine (removeDevice_spec nodeId w₁).run_bind keeps (fun _ w₂ seen h => ?_)
        fun _ _ h _ => ⟨keeps _ h, nofun⟩
      refine safe_run_pure.mpr ⟨keeps _ seen, keeps _ seen, fun o ho => ?_⟩
      obtain rfl := Except.ok.inj ho
      obtain ⟨w₃, changed, h₃⟩ := h
      exact ⟨rfl, fun _ => stable_unregistered nodeId h₃ (Unregistered.erased (.inr rfl) changed)⟩

/-- What survives the removal of each target's record survives a decommission, and the nodes it reports
as removed have no record in the end. -/
theorem decommissionOp_keeps (stable : Stable I) {targets : List NodeId}
    (survives : SurvivesChange ext plan I targets Devices.Erased) {w : World} (hw : I w) :
    Safe (planned ext plan) I (DecommissionOp.run ext ctx targets).run
      (fun r w' => I w' ∧ ∀ outcomes, r = .ok outcomes → ∀ outcome ∈ outcomes,
        outcome.success = true → Unregistered ext outcome.nodeId w') w := by
  induction targets generalizing w I with
  | nil =>
      refine safe_run_pure.mpr ⟨hw, hw, fun outcomes h => ?_⟩
      obtain rfl := Except.ok.inj h
      exact fun _ h => absurd h List.not_mem_nil
  | cons nodeId targets ih =>
      unfold DecommissionOp.run
      refine (decommissionStep_keeps stable (survives nodeId (List.mem_cons_self ..)) hw).run_bind
        (fun _ h => h) (fun outcome w₁ _ h => ?_) fun _ _ _ h => ⟨h.1, nofun⟩
      obtain ⟨h₁, step⟩ := h
      obtain ⟨hid, removed⟩ := step outcome rfl
      -- the rest of the run keeps what the step has established, besides `I`
      let K : World → Prop := fun w' => I w' ∧ (outcome.success = true → Unregistered ext nodeId w')
      have stableK : Stable K := fun _ _ hs h =>
        ⟨stable hs h.1, fun hok => stable_unregistered nodeId hs (h.2 hok)⟩
      have survivesK : SurvivesChange ext plan K targets Devices.Erased := fun n hn w₂ w₃ h changed =>
        ⟨survives.tail n hn w₂ w₃ h.1 changed, fun hok => Unregistered.erased (.inl (h.2 hok)) changed⟩
      refine (ih stableK survivesK ⟨h₁, removed⟩).run_bind (fun _ h => h.1) (fun outcomes w₂ hK h => ?_)
        fun _ _ hK _ => ⟨hK.1, nofun⟩
      refine safe_run_pure.mpr ⟨hK.1, hK.1, fun all hall => ?_⟩
      obtain rfl := Except.ok.inj hall
      intro o ho hok
      rcases List.mem_cons.mp ho with rfl | ho
      · rw [hid]
        exact hK.2 hok
      · exact h.2 outcomes rfl o ho hok

end Operations

end MatterTimeCtl
