/-
# MatterTimeCtl.Storage.Follow — the steps of a run, part by part.

The modules before say which worlds a part goes through; this one says from which to which it steps.  Only a
rename, a removal and the two commissioning phases change what a relation that `Views` the state files and the
history can see, so a part follows the relation as soon as it allows those few steps.  What they start from and
lead to is known from the specifications of the parts.
-/
import MatterTimeCtl.Storage.Operate

namespace MatterTimeCtl

open Files Effect

/-- The relation looks at nothing but the state files and the history. -/
structure Views (R : World → World → Prop) : Prop where
  same : ∀ {w w'}, w.Same w' → R w w'
  carries : ∀ {w w' v v'}, R w w' → w.Same v → w'.Same v' → R v v'

section Follow

variable {ext : Externals} {plan : (c : Call) → c.Move → Prop} {R : World → World → Prop}
  {config : Config} {ctx : Ctx} {fabrics : List Fabric} {w w₁ w₂ : World} {α β : Type}

/-! ## Quiet parts, and the one step of a replacement -/

/-- A quiet part steps only to worlds that look the same. -/
theorem Views.quiet (V : Views R) {I : World → Prop} {p : Prog α} (hp : p.Uses Quiet) {Q : α → World → Prop}
    (spec : Safe (planned ext plan) I p Q w) :
    Follows (planned ext plan) R p (fun a w' => I w' ∧ Q a w') w :=
  .of_safe spec hp fun _ w' m hc _ _ => V.same (quiet_next hc w' m)

theorem Views.quietly (V : Views R) {p : Prog α} (hp : p.Uses Quiet) (w : World) :
    Follows (planned ext plan) R p (fun _ => w.Same) w :=
  (V.quiet hp (safe_quiet hp w)).mono (fun _ _ h => h) fun _ _ h => h.1

theorem Views.talks (V : Views R) {p : Prog α} (hp : p.Uses Talk) (w : World) :
    Follows (planned ext plan) R p (fun _ => w.Same) w :=
  V.quietly (hp.mono fun _ => Talks.quiet) w

/-- The end of a part: there are no more calls to make. -/
theorem Views.quits (V : Views R) {p : Prog α} (hp : p.Uses Quiet) (w : World) :
    Follows (planned ext plan) R p (fun _ _ => True) w :=
  (V.quietly hp w).mono (fun _ _ h => h) fun _ _ _ => trivial

/-- A part that makes its one call where the world still looks like `w`, and comes to a world that looks like
`w` or like `w₁`. -/
theorem Views.single (V : Views R) {c : Call} {f : c.Answer → Action β} {Q : Except Failure β → World → Prop}
    (spec : Safe (planned ext plan) (fun w' => w.Same w' ∨ w₁.Same w') (ask c >>= f).run Q w₂)
    (at_ : w.Same w₂) (step : R w w₁) (rest : ∀ a, (f a).run.Uses Quiet) :
    Follows (planned ext plan) R (ask c >>= f).run (fun _ _ => True) w₂ := by
  rw [Effect.run_bind, run_ask, Program.call_bind, safe_call] at spec
  refine Obeys.ask_bind fun m hm => ⟨?_, V.quits (rest _) _⟩
  rcases (spec.2 m hm).here with h | h
  · exact V.same (at_.symm.trans h)
  · exact V.carries step at_ h

theorem uses_openTruncate {t : Path} (ht : ¬ IsState t) :
    (ask (.file (.openTruncate t)) >>= orFail Failure.io).run.Uses Quiet :=
  uses_run_bind (uses_ask (c := .file (.openTruncate t)) ht) fun _ => uses_orFail _ _

theorem quiet_writePrivate {t : Path} (ht : ¬ IsState t) (bytes : ByteArray) :
    (writePrivate t bytes).run.Uses Quiet := by
  have written : ∀ bytes, (ask (.file (.writeAll t bytes)) >>= orFail Failure.io).run.Uses Quiet := fun bytes =>
    uses_run_bind (uses_ask (c := .file (.writeAll t bytes)) ht) fun _ => uses_orFail _ _
  unfold writePrivate
  exact uses_run_bind (uses_openTruncate ht) fun _ => uses_run_bind (written _) fun _ =>
    uses_run_bind (written _) fun _ =>
      uses_run_bind (uses_ask (c := .file (.syncAll t)) (by trivial)) fun _ => uses_orFail _ _

/-- **Build aside, then rename**: one step, from the old contents to the new. -/
theorem Views.replace (V : Views R) {t p : Path} (ht : ¬ IsState t) (d : Dir) (body : ByteArray)
    (step : R w (w.put p (body ++ "\n".toUTF8))) :
    Follows (planned ext plan) R (do
        ask (.dir (.createAll d)) >>= orFail .io
        writePrivate t body
        ask (.file (.rename t p)) >>= orFail .io : Action Unit).run (fun _ _ => True) w := by
  refine Obeys.run_then (V.quiet (uses_run_bind (uses_ask (c := .dir (.createAll d)) (by trivial)) fun _ =>
    uses_orFail _ _) (createAll_spec (S := IsState) d w)) fun _ w₁ ⟨h₁, _⟩ => ?_
  refine Obeys.run_then (V.quiet (quiet_writePrivate ht body) (writePrivate_spec ht body w₁))
    fun _ w₂ ⟨h₂, written⟩ => ?_
  have at_ : w.Same w₂ := h₁.trans h₂
  exact V.single ((rename_spec ht at_ written).mono
    (fun _ h => h) fun _ _ _ h => h) at_ step fun _ => uses_orFail _ _

theorem Views.store (V : Views R) {p : Path} (ht : ¬ IsState (withExtension p "json.tmp")) (json : Codec α)
    (value : α) (step : R w (w.put p (jsonFile json value))) :
    Follows (planned ext plan) R (store json p value).run (fun _ _ => True) w := by
  rw [← jsonFile_eq] at step
  exact V.replace ht p.dir _ step

theorem Views.kvStore (V : Views R) (key : UInt16) (data : ByteArray)
    (step : R w (w.put (keyPath key) (data ++ "\n".toUTF8))) :
    Follows (planned ext plan) R (kvStore key data).run (fun _ _ => True) w := by
  refine (V.replace (not_isState_keyTmp key) .matter data step).attempt_bind fun r w' _ => ?_
  cases r <;> exact V.quits (uses_run_pure _) w'

theorem Views.persistFabric (V : Views R) {fabIdx : FabIdx}
    (step : ∀ f, fabrics.find? (·.fabIdx = fabIdx) = some f →
      R w (w.put (fabricPath ext fabIdx) (fabricBlob ext f))) :
    Follows (planned ext plan) R (persistFabric ext fabrics fabIdx).run (fun _ _ => True) w := by
  unfold MatterTimeCtl.persistFabric
  split
  · exact V.quits (uses_run_throw _) w
  · rename_i f hf
    exact (V.kvStore _ _ (step f hf)).run_then fun _ w' _ => V.quits (uses_orFail _ _) w'

theorem Views.removePersistedFabric (V : Views R) {fabIdx : FabIdx} (at_ : w.Same w₂)
    (step : R w (w.remove ext (fabricPath ext fabIdx))) :
    Follows (planned ext plan) R (removePersistedFabric ext fabIdx).run (fun _ _ => True) w₂ := by
  have removed : (w.remove ext (fabricPath ext fabIdx)).Same (w₂.remove ext (fabricPath ext fabIdx)) :=
    at_.remove ext (isState_fabric fabIdx)
  have taken : Follows (planned ext plan) R (kvRemove (ext.fabricKey fabIdx)).run (fun _ _ => True) w₂ := by
    refine V.single ((kvRemove_spec (ext.fabricKey fabIdx) w₂).mono
      (fun _ h => h.imp at_.trans removed.trans) fun _ _ _ h => h) at_ step fun r => ?_
    split <;> exact uses_run_pure _
  exact taken.run_then fun _ w' _ => V.quits (uses_orFail _ _) w'

/-! ## The registry -/

theorem Views.updateDevice (V : Views R) {nodeId : NodeId} {patch : DeviceRecord → Action DeviceRecord}
    (hpatch : ∀ d, (patch d).run.Uses Talk)
    (step : ∀ w₁, RegistryChanged ext plan w (Devices.Inserted nodeId) w₁ → R w w₁) :
    Follows (planned ext plan) R (updateDevice ext devicesPath nodeId patch).run (fun _ _ => True) w := by
  refine Obeys.run_then (V.quiet (uses_run_bind (uses_ask (c := .file (.readToString devicesPath)) (by trivial))
    fun _ => uses_run_pure _) (loadOrDefault_spec w)) fun devices w₁ ⟨h₁, raw, hr, read⟩ => ?_
  obtain rfl := Except.ok.inj hr
  refine Obeys.run_then (V.talks (hpatch _) w₁) fun record w₂ h₂ => ?_
  have at_ := h₁.trans h₂
  exact V.store not_isState_devicesTmp _ _
    (V.carries (step _ ⟨raw, _, read, ⟨record, rfl⟩, rfl⟩) at_ (at_.put _ _))

theorem Views.removeDevice (V : Views R) {nodeId : NodeId}
    (step : ∀ w₁, RegistryChanged ext plan w (Devices.Erased nodeId) w₁ → R w w₁) :
    Follows (planned ext plan) R (removeDevice ext devicesPath nodeId).run (fun _ _ => True) w := by
  refine Obeys.run_then (V.quiet (uses_run_bind (uses_ask (c := .file (.readToString devicesPath)) (by trivial))
    fun _ => uses_run_pure _) (loadOrDefault_spec w)) fun devices w₁ ⟨h₁, raw, hr, read⟩ => ?_
  obtain rfl := Except.ok.inj hr
  exact V.store not_isState_devicesTmp _ _ (V.carries (step _ ⟨raw, _, read, rfl, rfl⟩) h₁ (h₁.put _ _))

/-! ## Ensuring the fabric -/

/-- The steps that `ensureFabric` takes from `w`, on the loaded `fabrics`. -/
structure EnsureSteps (ext : Externals) (plan : (c : Call) → c.Move → Prop) (config : Config)
    (fabrics : List Fabric) (R : World → World → Prop) (w : World) : Prop where
  relabel : ∀ {text identity f}, Reads plan w.files identityPath (.ok text) →
    ext.identityJson.decode text = .ok identity → fabrics.head? = some f →
    R w (w.install ext (setLabel f.fabIdx config.fabricLabel f))
  discard : ∀ {f : Fabric} {cause}, fabrics.head? = some f → Reads plan w.files identityPath (.error cause) →
    ReadsEmptyRegistry ext plan w → R w (w.remove ext (fabricPath ext f.fabIdx))
  install : ∀ {rest w₀ f identity}, Bootstraps ext plan fabrics w rest w₀ → Minted ext rest f identity →
    R w₀ (w₀.install ext f)
  complete : ∀ {rest w₀ f identity}, Bootstraps ext plan fabrics w rest w₀ → Minted ext rest f identity →
    R (w₀.install ext f) (w₀.complete ext f identity)

theorem Views.reconcileLabel (V : Views R) {label : String} {f : Fabric} {rest : List Fabric}
    (step : R w (w.install ext (setLabel f.fabIdx label f))) :
    Follows (planned ext plan) R (reconcileLabel ext (f :: rest) f.fabIdx label).run (fun _ _ => True) w := by
  unfold MatterTimeCtl.reconcileLabel
  dsimp only
  split
  · exact V.quits (uses_run_pure _) w
  · split
    · exact V.quits (uses_run_throw _) w
    · rename_i fabrics hupdate
      obtain rfl := ext.updateLabel_eq hupdate
      refine Obeys.run_then (V.persistFabric fun g hg => ?_) fun _ w' _ => V.quits (uses_run_pure _) w'
      -- the fabric that is persisted is the relabelled one
      rw [find?_map_setLabel, List.find?_cons_of_pos (by simp), Option.map_some] at hg
      obtain rfl := Option.some.inj hg
      rwa [World.install, setLabel_fabIdx] at step

theorem quiet_mintFabric (fabrics : List Fabric) : (mintFabric fabrics).run.Uses Quiet :=
  uses_mintFabric (fun _ => trivial) (fun _ => trivial) fabrics

/-- Two steps: the blob, then the identity. -/
theorem Views.bootstrapFabric (V : Views R) {rest : List Fabric} (at_ : w.Same w₂)
    (install : ∀ {f identity}, Minted ext rest f identity → R w (w.install ext f))
    (complete : ∀ {f identity}, Minted ext rest f identity → R (w.install ext f) (w.complete ext f identity)) :
    Follows (planned ext plan) R (bootstrapFabric ext config rest).run (fun _ _ => True) w₂ := by
  refine Obeys.run_then (V.quiet (quiet_mintFabric rest) (mintFabric_spec rest w₂))
    fun (identity, fabIdx, seed) w₃ ⟨h₃, mint⟩ => ?_
  dsimp only
  obtain ⟨f, hfound, hidx, hseed⟩ := find?_tryUpdateLabel ext
    (mint { fabIdx, seed, label := "" } rfl rfl).fresh config.fabricLabel
  have minted := mint f hidx hseed
  replace at_ := at_.trans h₃
  have persisted : Atomic ext plan (MatterTimeCtl.persistFabric ext _ fabIdx) w₃ _ :=
    persistFabric_atomic hfound w₃
  refine Obeys.run_then (Obeys.and_safe (V.persistFabric fun g hg => ?_) persisted)
    fun _ w₄ ⟨_, _, h₄⟩ => ?_
  · rw [hfound] at hg
    obtain rfl := Option.some.inj hg
    have step := V.carries (install minted) at_ (at_.put _ _)
    rwa [hidx] at step
  · -- the identity follows its fabric
    have installed : (w.install ext f).Same w₄ := by
      refine (at_.put _ _).trans ?_
      rw [hidx]
      exact h₄
    refine (V.store not_isState_identityTmp _ _
      (V.carries (complete minted) installed (installed.put _ _))).attempt_bind fun r w₅ _ => ?_
    cases r with
    | ok _ => exact V.quits (uses_run_pure _) w₅
    | error _ => exact V.quits (uses_run_throw _) w₅

/-- The guards decide, and only a bootstrap takes steps. -/
theorem Views.refuseOrBootstrap (V : Views R) (S : EnsureSteps ext plan config fabrics R w)
    {rest : List Fabric} {w₀ : World} (cleared : Cleared ext plan fabrics w rest w₀) (at_ : w₀.Same w₁)
    {raw : Except IoError String} (read : Reads plan w.files devicesPath raw) :
    Follows (planned ext plan) R (refuseOrBootstrap ext config rest (registryOf ext raw)).run
      (fun _ _ => True) w₁ := by
  unfold MatterTimeCtl.refuseOrBootstrap
  refine Obeys.run_then (V.quiet (uses_ask (c := .file (.pathExists identityPath)) (by trivial))
    (pathExists_spec w₁)) fun found w₂ ⟨h₂, answer⟩ => ?_
  split
  · exact V.quits (uses_run_throw _) w₂
  · split
    · exact V.quits (uses_run_throw _) w₂
    · rename_i hfound hempty
      have absent : w₀.files identityPath = none := by
        have hsome := Except.ok.inj answer
        rw [at_.at_ isState_identity] at hsome
        simpa [hfound] using hsome.symm
      have boot : Bootstraps ext plan fabrics w rest w₀ := ⟨cleared, absent, raw, read, by simpa using hempty⟩
      exact V.bootstrapFabric (at_.trans h₂) (S.install boot) (S.complete boot)

/-- **The steps of `ensureFabric`.** -/
theorem Views.ensureFabric (V : Views R) (S : EnsureSteps ext plan config fabrics R w) :
    Follows (planned ext plan) R (ensureFabric ext config fabrics).run (fun _ _ => True) w := by
  unfold MatterTimeCtl.ensureFabric
  refine Obeys.run_then (V.quiet (uses_run_bind (uses_ask (c := .file (.readToString devicesPath)) (by trivial))
    fun _ => uses_run_pure _) (loadOrDefault_spec w)) fun registry w₁ ⟨h₁, raw, hr, read⟩ => ?_
  obtain rfl := Except.ok.inj hr
  cases fabrics with
  | nil => exact V.refuseOrBootstrap S (.fresh rfl) h₁ read
  | cons f rest =>
      simp only [List.map_cons, List.head?_cons]
      refine Obeys.run_then (V.quiet (uses_ask (c := .file (.readToString identityPath)) (by trivial))
        (read_spec w₁)) fun answer w₂ ⟨h₂, raw', ha, hread⟩ => ?_
      obtain rfl := Except.ok.inj ha
      rw [Reads.same isState_identity h₁] at hread
      replace h₂ := h₁.trans h₂
      cases answer with
      | ok text =>
          cases hparse : ext.identityJson.decode text with
          | error cause =>
              simp only [hparse]
              exact V.quits (uses_run_throw _) w₂
          | ok identity =>
              simp only [hparse]
              have step := V.carries (S.relabel hread hparse rfl) h₂ (h₂.put _ _)
              exact (V.reconcileLabel step).run_then fun _ w' _ => V.quits (uses_run_pure _) w'
      | error cause =>
          dsimp only
          split
          · rename_i hempty
            have empty : ReadsEmptyRegistry ext plan w := ⟨raw, read, hempty⟩
            refine Obeys.run_then (V.quiet (uses_ask (c := .log .warn _) (by trivial)) (logWarn_spec _ w₂))
              fun _ w₃ ⟨h₃, _⟩ => ?_
            replace h₂ := h₂.trans h₃
            refine Obeys.run_then (Obeys.and_safe (V.removePersistedFabric h₂ (S.discard rfl hread empty))
              (removePersistedFabric_atomic f.fabIdx w₃)) fun _ w₄ ⟨_, _, h₄⟩ => ?_
            exact V.refuseOrBootstrap S (.discarded rfl hread empty)
              ((h₂.remove ext (isState_fabric f.fabIdx)).trans h₄) read
          · exact V.quits (uses_run_throw _) w₂

/-! ## Commissioning -/

/-- The steps that a commissioning takes from `w`. -/
structure CommissionSteps (ext : Externals) (plan : (c : Call) → c.Move → Prop) (ctx : Ctx)
    (R : World → World → Prop) (w : World) : Prop where
  assign : R w (w.assign ext ctx.identity.nextDeviceNodeId)
  join : ∀ {f}, ctx.fabric? = some f → R (w.assign ext ctx.identity.nextDeviceNodeId)
    (w.enroll ext ctx.identity.nextDeviceNodeId f)
  record : ∀ {f w₁}, ctx.fabric? = some f → RegistryChanged ext plan
    (w.enroll ext ctx.identity.nextDeviceNodeId f) (Devices.Inserted ctx.identity.nextDeviceNodeId) w₁ →
    R (w.enroll ext ctx.identity.nextDeviceNodeId f) w₁
  count : ∀ {f w₁}, ctx.fabric? = some f → RegistryChanged ext plan
    (w.enroll ext ctx.identity.nextDeviceNodeId f) (Devices.Inserted ctx.identity.nextDeviceNodeId) w₁ →
    R w₁ (w₁.put identityPath (jsonFile ext.identityJson ctx.identity.counted))

/-- A phase that runs against the timer, as a single call. -/
theorem Views.withTimeout (V : Views R) {secs : Nat} {future : Future} {what : String}
    {Q : Except Failure Unit → World → Prop}
    (spec : Safe (planned ext plan) (fun w' => w.Same w' ∨ w₁.Same w') (withTimeout what secs future).run Q w₂)
    (at_ : w.Same w₂) (step : R w w₁) :
    Follows (planned ext plan) R (withTimeout what secs future).run (fun _ _ => True) w₂ := by
  refine V.single spec at_ step fun r => ?_
  split
  · exact uses_orFail _ _
  · exact uses_run_throw _

/-- The device is given its node id and joins: two steps. -/
theorem Views.join (V : Views R) (S : CommissionSteps ext plan ctx R w) (onboarding : Onboarding) :
    Follows (planned ext plan) R (CommissionOp.join ctx onboarding).run (fun _ _ => True) w := by
  unfold CommissionOp.join
  refine Obeys.run_then (V.quietly (uses_run_bind (uses_ask (c := .browse _ _) (by trivial)) fun _ =>
    uses_orFail _ _) w) fun peer w₁ h₁ => ?_
  dsimp only
  refine Obeys.run_then (V.quietly (uses_orFail _ _) w₁) fun privkey w₂ h₂ => ?_
  refine Obeys.run_then (V.quietly (uses_run_bind (uses_ask (c := .crypto (.nocGeneratorNew _ _)) (by trivial))
    fun _ => uses_orFail _ _) w₂) fun _ w₃ h₃ => ?_
  have at_ := h₁.trans (h₂.trans h₃)
  have assigned := at_.assign ext ctx.identity.nextDeviceNodeId
  refine Obeys.run_then (Obeys.and_safe (V.withTimeout ((commissionPhase_spec peer onboarding.passcode w₃ _ _ _).mono
    (fun _ h => h.imp at_.trans assigned.trans) fun _ _ _ h => h) at_ S.assign)
    (commissionPhase_spec peer onboarding.passcode w₃ _ _ _)) fun _ w₄ ⟨_, _, h₄⟩ => ?_
  have hfabric : ctx.fabrics.find? (·.fabIdx = ctx.fabIdx) = ctx.fabric? := rfl
  simp only [hfabric]
  cases found : ctx.fabric? with
  | none => exact V.quits (uses_run_throw _) w₄
  | some f =>
      dsimp only
      have assigned₄ := assigned.trans h₄
      refine Obeys.run_then (V.withTimeout ((completePhase_spec peer f w₄ _ _ _).mono
        (fun _ h => h.imp assigned₄.trans (assigned₄.join _ f).trans) fun _ _ _ h => h) assigned₄ (S.join found))
        fun _ w₅ _ => V.quits (uses_run_pure _) w₅

/-- **The steps of a commissioning**: assigned, joined, recorded, counted. -/
theorem Views.commission (V : Views R) (S : CommissionSteps ext plan ctx R w) (onboarding : Onboarding) :
    Follows (planned ext plan) R (CommissionOp.run ext ctx onboarding).run (fun _ _ => True) w := by
  unfold CommissionOp.run
  refine Obeys.run_then (Obeys.and_safe (V.join S onboarding) (join_spec onboarding w))
    fun nodeId w₁ ⟨_, _, joined⟩ => ?_
  obtain ⟨rfl, f, found, h₁⟩ := joined _ rfl
  unfold CommissionOp.record
  refine Obeys.run_then (V.talks (talk_readDeviceNames ext ctx _ trivial trivial) w₁)
    fun (vendorName, productName) w₂ h₂ => ?_
  dsimp only
  have at_ := h₁.trans h₂
  have talks : ∀ d : DeviceRecord, (do
      let now ← ask .now
      return { d with vendorName, productName, lastSuccessfulConnection := some now } :
      Action DeviceRecord).run.Uses Talk := fun _ =>
    uses_run_bind (uses_ask (c := .now) trivial) fun _ => uses_run_pure _
  -- a change of the registry, seen from where the device had joined
  have changed : ∀ w₃, RegistryChanged ext plan w₂ (Devices.Inserted ctx.identity.nextDeviceNodeId) w₃ →
      ∃ w₄, RegistryChanged ext plan (w.enroll ext ctx.identity.nextDeviceNodeId f)
        (Devices.Inserted ctx.identity.nextDeviceNodeId) w₄ ∧ w₄.Same w₃ := by
    rintro w₃ ⟨raw, devices, read, change, rfl⟩
    exact ⟨_, ⟨raw, devices, (Reads.same isState_devices at_).mp read, change, rfl⟩, at_.put _ _⟩
  refine Obeys.run_then (Obeys.and_safe (V.updateDevice talks fun w₃ h => ?_) (updateDevice_spec _ talks w₂))
    fun _ w₃ ⟨_, _, recorded⟩ => ?_
  · obtain ⟨w₄, change, h₄⟩ := changed w₃ h
    exact V.carries (S.record found change) at_ h₄
  · obtain ⟨w₄, change, h₃⟩ := recorded
    obtain ⟨w₅, change, h₅⟩ := changed w₄ change
    have at₃ := h₅.trans h₃
    exact (V.store not_isState_identityTmp _ _ (V.carries (S.count found change) at₃ (at₃.put _ _))).run_then
      fun _ w₆ _ => V.quits (uses_run_pure _) w₆

/-! ## Sync, decommission, and the rest -/

/-- A change to the record of any of these nodes is a step, and keeps what is to be known of the world. -/
def StepsOnChange (ext : Externals) (plan : (c : Call) → c.Move → Prop) (R : World → World → Prop)
    (I : World → Prop) (targets : List NodeId) (change : NodeId → Devices → Devices → Prop) : Prop :=
  ∀ nodeId ∈ targets, ∀ w w₁, I w → RegistryChanged ext plan w (change nodeId) w₁ → R w w₁ ∧ I w₁

section Batch

variable {I : World → Prop} {targets : List NodeId}

theorem StepsOnChange.tail {nodeId : NodeId} {change : NodeId → Devices → Devices → Prop}
    (h : StepsOnChange ext plan R I (nodeId :: targets) change) : StepsOnChange ext plan R I targets change :=
  fun n hn => h n (List.mem_cons_of_mem _ hn)

/-- One record updated, and what is known is still known. -/
theorem Views.patched (V : Views R) (stable : Stable I) {nodeId : NodeId}
    (h : ∀ w w₁, I w → RegistryChanged ext plan w (Devices.Inserted nodeId) w₁ → R w w₁ ∧ I w₁)
    {patch : DeviceRecord → Action DeviceRecord} (hpatch : ∀ d, (patch d).run.Uses Talk) (hw : I w) :
    Follows (planned ext plan) R (MatterTimeCtl.updateDevice ext devicesPath nodeId patch).run
      (fun _ w' => I w') w :=
  (Obeys.and_safe (V.updateDevice hpatch fun w₁ changed => (h w w₁ hw changed).1)
    (updateDevice_keeps stable (fun w w₁ hw changed => (h w w₁ hw changed).2) hpatch hw)).mono
    (fun _ _ h => h) fun _ _ h => h.2.1

theorem Views.struck (V : Views R) (stable : Stable I) {nodeId : NodeId}
    (h : ∀ w w₁, I w → RegistryChanged ext plan w (Devices.Erased nodeId) w₁ → R w w₁ ∧ I w₁) (hw : I w) :
    Follows (planned ext plan) R (MatterTimeCtl.removeDevice ext devicesPath nodeId).run (fun _ w' => I w') w := by
  have keeps : ∀ w', w.Same w' ∨ SeenChanged ext plan w (Devices.Erased nodeId) w' → I w' := by
    rintro w' (same | ⟨w₁, changed, same⟩)
    · exact stable same hw
    · exact stable same (h w w₁ hw changed).2
  exact (Obeys.and_safe (V.removeDevice fun w₁ changed => (h w w₁ hw changed).1) (removeDevice_spec nodeId w)).mono
    (fun _ _ h => h) fun _ _ ⟨_, seen, _⟩ => keeps _ seen

theorem Views.keeps (V : Views R) (stable : Stable I) {p : Prog α} (hp : p.Uses Talk) (hw : I w) :
    Follows (planned ext plan) R p (fun _ w' => I w') w :=
  (V.talks hp w).mono (fun _ _ h => h) fun _ _ h => stable h hw

theorem Views.sync (V : Views R) (stable : Stable I) (manualTime : Option MatterMicros)
    (h : StepsOnChange ext plan R I targets Devices.Inserted) (hw : I w) :
    Follows (planned ext plan) R (SyncOp.run ext ctx manualTime targets).run (fun _ _ => True) w := by
  induction targets generalizing w with
  | nil => exact V.quits (uses_run_pure _) w
  | cons nodeId targets ih =>
      have here := h nodeId (List.mem_cons_self ..)
      unfold SyncOp.run
      refine Obeys.run_then (R := fun _ w' => I w') ?_ fun _ w₁ h₁ => (ih h.tail h₁).run_then fun _ w₂ _ =>
        V.quits (uses_run_pure _) w₂
      unfold SyncOp.step
      refine (V.patched stable here (fun _ => uses_run_bind (uses_ask (c := .now) trivial) fun _ =>
        uses_run_pure _) hw).run_bind (fun _ w₁ h₁ => ?_) fun _ _ h => h
      refine (V.keeps stable (talk_syncOne ext ctx nodeId manualTime) h₁).attempt_bind fun r w₂ h₂ => ?_
      dsimp only
      refine (V.patched stable here (talk_noteOutcome _) h₂).run_bind (fun _ w₃ h₃ => ?_) fun _ _ h => h
      exact V.keeps stable (uses_run_bind (talk_logOutcome _ _) fun _ => uses_run_pure _) h₃

theorem Views.decommission (V : Views R) (stable : Stable I)
    (h : StepsOnChange ext plan R I targets Devices.Erased) (hw : I w) :
    Follows (planned ext plan) R (DecommissionOp.run ext ctx targets).run (fun _ _ => True) w := by
  induction targets generalizing w with
  | nil => exact V.quits (uses_run_pure _) w
  | cons nodeId targets ih =>
      have here := h nodeId (List.mem_cons_self ..)
      unfold DecommissionOp.run
      refine Obeys.run_then (R := fun _ w' => I w') ?_ fun _ w₁ h₁ => (ih h.tail h₁).run_then fun _ w₂ _ =>
        V.quits (uses_run_pure _) w₂
      unfold DecommissionOp.step
      refine (V.keeps stable (talk_decommissionOne ext ctx nodeId) hw).attempt_bind fun r w₁ h₁ => ?_
      cases r with
      | error _ =>
          exact V.keeps stable (uses_run_bind (uses_ask (c := .log .error _) trivial) fun _ => uses_run_pure _) h₁
      | ok _ =>
          exact (V.struck stable here h₁).run_bind (fun _ w₂ h₂ => obeys_done.mpr h₂) fun _ _ h => h

end Batch

/-! ## The harness -/

/-- **The steps of a run while it holds the lock**: those of `ensureFabric`, then those of its operation. -/
theorem Views.runLocked (V : Views R) {op : Op}
    (ensure : ∀ {loaded w₁}, w.Same w₁ → ext.loadFabrics (blobsOf w₁.files) = .ok loaded →
      EnsureSteps ext plan config loaded R w₁)
    (operate : ∀ {loaded w₁ w₂ fabrics fabIdx identity w₃}, w.Same w₁ →
      ext.loadFabrics (blobsOf w₁.files) = .ok loaded →
      EnsureOk ext plan config loaded w₁ w₂ (fabrics, fabIdx, identity) → w₂.Same w₃ →
      Follows (planned ext plan) R (runOp ext { fabrics, fabIdx, identity, config } op).run (fun _ _ => True) w₃) :
    Follows (planned ext plan) R (runLocked ext config op).run (fun _ _ => True) w := by
  unfold MatterTimeCtl.runLocked
  refine Obeys.run_then (V.quiet (uses_run_bind (uses_ask (c := .loadPersist) (by trivial)) fun _ =>
    uses_orFail _ _) (loadPersist_spec w)) fun loaded w₁ ⟨h₁, load⟩ => ?_
  have hload : ext.loadFabrics (blobsOf w₁.files) = .ok loaded := by
    rw [h₁.blobs]
    exact load loaded rfl
  refine Obeys.run_then (Obeys.and_safe (V.ensureFabric (ensure h₁ hload)) (ensureFabric_spec hload))
    fun (fabrics, fabIdx, identity) w₂ ⟨_, _, w₀, hok, h₀⟩ => ?_
  dsimp only
  refine Obeys.run_then (V.quietly (uses_run_bind (uses_ask (c := .bindUdp) (by trivial)) fun _ =>
    uses_orFail _ _) w₂) fun _ w₃ h₃ => ?_
  refine Obeys.run_then (V.quietly quiet_pickInterface w₃) fun (_, _, interface) w₄ h₄ => ?_
  refine Obeys.run_then (V.quietly (uses_run_bind (uses_ask (c := .bindMdns interface) (by trivial)) fun _ =>
    uses_orFail _ _) w₄) fun _ w₅ h₅ => ?_
  exact operate h₁ hload hok (h₀.trans (h₃.trans (h₄.trans h₅)))

end Follow

end MatterTimeCtl
