/-
# MatterTimeCtl.Storage.Run — invariants of whole runs, from invariants of their parts.

A run is quiet until it has the lock, then it ensures the fabric, sets up its sockets quietly, and runs
its operation.  So a property that does not look past the state files (`Stable`) holds at every point of
a command once it survives the worlds of `ensureFabric` and every point of the operation.
-/
import MatterTimeCtl.Storage.Ensure

namespace MatterTimeCtl

open Files Effect

/-- The property does not tell worlds apart that look the same to a later run. -/
def Stable (I : World → Prop) : Prop := ∀ ⦃w w'⦄, w.Same w' → I w → I w'

section Run

variable {ext : Externals} {plan : (c : Call) → c.Move → Prop} {config : Config}
  {I J : World → Prop}

/-- A quiet part keeps a stable property. -/
theorem safe_stable {α : Type} (stable : Stable I) {p : Prog α} (hp : p.Uses Quiet) {w : World}
    (hw : I w) : Safe (planned ext plan) I p (fun _ => I) w :=
  (safe_quiet hp w).mono (fun _ h => stable h hw) fun _ _ _ h => stable h hw

theorem Stable.outside {α : Type} (stable : Stable I) {p : Prog α} (hp : p.Uses Outside) {w : World}
    (hw : I w) : Safe (planned ext plan) I p (fun _ => I) w :=
  safe_stable stable (hp.mono fun _ => Outside.quiet) hw

theorem Stable.talk {α : Type} (stable : Stable I) {p : Prog α} (hp : p.Uses Talk) {w : World}
    (hw : I w) : Safe (planned ext plan) I p (fun _ => I) w :=
  safe_stable stable (hp.mono fun _ => Talks.quiet) hw

/-- One more quiet part in front. -/
theorem Stable.then {α β : Type} (stable : Stable J) (hJI : ∀ w, J w → I w) {x : Action α}
    {f : α → Action β} (hx : x.run.Uses Quiet) {Q : Except Failure β → World → Prop}
    (hQ : ∀ e w, J w → Q (.error e) w)
    (next : ∀ a w, J w → Safe (planned ext plan) I (f a).run Q w) {w : World} (hw : J w) :
    Safe (planned ext plan) I (x >>= f).run Q w :=
  (safe_stable stable hx hw).run_bind hJI (fun a w' hw' _ => next a w' hw') fun e w' hw' _ => hQ e w' hw'

/-- What a run needs to keep `I`: `J` holds until the operation starts and implies `I`, the operation
keeps `I` and its result satisfies `Q`, and reporting such a result keeps `I`. -/
structure RunKeeps (ext : Externals) (plan : (c : Call) → c.Move → Prop) (config : Config)
    (J I : World → Prop) (op : Op) (Q : Except Failure op.Out → World → Prop) : Prop where
  stable : Stable J
  stable' : Stable I
  imp : ∀ w, J w → I w
  ensure : ∀ {fabrics w w₁}, J w → ext.loadFabrics (blobsOf w.files) = .ok fabrics →
    EnsureSeen ext plan config fabrics w w₁ → J w₁
  operate : ∀ {loaded w w₁ fabrics fabIdx identity w'}, J w →
    ext.loadFabrics (blobsOf w.files) = .ok loaded →
    EnsureOk ext plan config loaded w w₁ (fabrics, fabIdx, identity) → w₁.Same w' →
    Safe (planned ext plan) I (runOp ext { fabrics, fabIdx, identity, config } op).run Q w'
  error : ∀ e w, Q (.error e) w
  report : ∀ r w, I w → Q r w → I (w.report op r)

theorem loadPersist_spec (w : World) :
    Safe (planned ext plan) w.Same (ask .loadPersist >>= orFail (.matter "load persisted Matter state")).run
      (fun r _ => ∀ fabrics, r = .ok fabrics → ext.loadFabrics (blobsOf w.files) = .ok fabrics) w := by
  refine Safe.ask_bind (.refl w) fun m _ => safe_orFail.mpr ⟨quiet_next (by trivial) w m, ?_⟩
  obtain ⟨later, fault⟩ := m
  cases fault with
  | none =>
      show ∀ fabrics, (ext.loadFabrics (blobsOf w.files)).mapError _ = .ok fabrics → _
      intro fabrics h
      cases hload : ext.loadFabrics (blobsOf w.files) with
      | ok loaded =>
          rw [hload] at h
          exact congrArg _ (Except.ok.inj h)
      | error e =>
          rw [hload] at h
          cases h
  | some e => exact fun fabrics h => by cases h

theorem quiet_pickInterface : pickInterface.run.Uses Quiet := by
  refine uses_run_bind (uses_run_bind (uses_ask (c := .interfaces) (by trivial)) fun _ =>
    uses_orFail _ _) fun all => ?_
  split
  · exact uses_run_pure _
  · exact uses_run_throw _

theorem runLocked_safe {op : Op} {Q : Except Failure op.Out → World → Prop}
    (h : RunKeeps ext plan config J I op Q) {w : World} (hw : J w) :
    Safe (planned ext plan) I (runLocked ext config op).run Q w := by
  unfold runLocked
  refine (loadPersist_spec w).run_bind (fun _ hs => h.imp _ (h.stable hs hw))
    (fun fabrics w₁ h₁ load => ?_) fun e w' _ _ => h.error e w'
  have hload : ext.loadFabrics (blobsOf w₁.files) = .ok fabrics := by
    rw [h₁.blobs]
    exact load fabrics rfl
  have hw₁ := h.stable h₁ hw
  refine (ensureFabric_spec hload).run_bind ?_ (fun (fabrics', fabIdx, identity) w₂ _ hok => ?_)
    fun e w' _ _ => h.error e w'
  · rintro w' ⟨w₂, hseen, h₂⟩
    exact h.imp _ (h.stable h₂ (h.ensure hw₁ hload hseen))
  obtain ⟨w₀, hok, h₂⟩ := hok
  dsimp only
  -- setting up the sockets leaves the storage as `ensureFabric` did
  have quiet : Stable w₀.Same := fun _ _ hs h => h.trans hs
  have hI : ∀ w', w₀.Same w' → I w' := fun w' hs =>
    h.stable' hs (h.imp _ (h.ensure hw₁ hload hok.seen))
  refine quiet.then hI (uses_run_bind (uses_ask (c := .bindUdp) (by trivial)) fun _ =>
    uses_orFail _ _) (fun e w' _ => h.error e w') (fun _ w₃ h₃ => ?_) h₂
  refine quiet.then hI quiet_pickInterface (fun e w' _ => h.error e w')
    (fun (_, _, interface) w₄ h₄ => ?_) h₃
  refine quiet.then hI (uses_run_bind (uses_ask (c := .bindMdns interface) (by trivial)) fun _ =>
    uses_orFail _ _) (fun e w' _ => h.error e w') (fun _ w₅ h₅ => ?_) h₄
  exact h.operate hw₁ hload hok h₅

theorem quiet_lockStorage (op : Op) : (lockStorage config op).run.Uses Quiet := by
  refine uses_run_bind (uses_run_bind (uses_ask (c := .file (.openTruncate lockPath))
    (by exact not_isState_lock)) fun _ => uses_orFail _ _) fun _ =>
    uses_run_bind (uses_ask (c := .flock op) (by trivial)) fun granted => ?_
  cases granted with
  | false => exact uses_run_throw _
  | true => exact uses_run_pure _

/-- Giving the lock back reports the result. -/
theorem unlock_safe {op : Op} (stable : Stable I) {result : Except Failure op.Out} {w : World}
    (hw : I w) (report : I (w.report op result)) :
    Safe (planned ext plan) I (do ask (.unlock op result); orFail id result).run (fun _ => I) w := by
  refine Safe.ask_bind hw fun m _ => safe_orFail.mpr ?_
  have reported := stable (same_clock (.refl (w.report op result)) m.later) report
  exact ⟨reported, reported⟩

theorem run_safe {op : Op} {Q : Except Failure op.Out → World → Prop}
    (h : RunKeeps ext plan config J I op Q) {w : World} (hw : J w) :
    Safe (planned ext plan) I (run ext config op).run (fun _ => I) w := by
  refine h.stable.then h.imp ((outside_prepareStorageDir config).mono fun _ => Outside.quiet)
    (fun _ _ hJ => h.imp _ hJ) (fun _ w₁ hw₁ => ?_) hw
  refine h.stable.then h.imp (quiet_lockStorage op) (fun _ _ hJ => h.imp _ hJ)
    (fun _ w₂ hw₂ => ?_) hw₁
  refine (runLocked_safe h hw₂).attempt_bind (fun _ hI => hI) fun r w₃ hw₃ hQ => ?_
  exact unlock_safe h.stable' hw₃ (h.report r w₃ hw₃ hQ)

/-- **Commands keep what runs keep.** -/
theorem runCommission_safe {onboarding : Onboarding}
    {Q : Except Failure CommissionOutcome → World → Prop}
    (h : RunKeeps ext plan config J I (.commission onboarding) Q) {w : World} (hw : J w) :
    Safe (planned ext plan) I (runCommission ext config onboarding).run (fun _ => I) w :=
  (run_safe h hw).run_bind (fun _ hI => hI) (fun _ _ hI _ => safe_run_pure.mpr ⟨hI, hI⟩)
    fun _ _ hI _ => hI

theorem runSync_safe {target : Option NodeId} {time : Option String}
    {Q : Except Failure (List SyncOutcome) → World → Prop}
    (h : ∀ targets manualTime, RunKeeps ext plan config J I (.sync targets manualTime) Q) {w : World}
    (hw : J w) : Safe (planned ext plan) I (runSync ext config target time).run (fun _ => I) w := by
  have stable : Stable J := (h [] none).stable
  have imp : ∀ w, J w → I w := (h [] none).imp
  refine stable.then imp ((looks_manualTimeOf ext config time).mono fun _ h => h.outside.quiet)
    (fun _ _ hJ => imp _ hJ) (fun manualTime w₁ hw₁ => ?_) hw
  refine stable.then imp (uses_ask (P := Quiet) (by trivial)) (fun _ _ hJ => imp _ hJ)
    (fun ntp w₂ hw₂ => ?_) hw₁
  split
  · exact stable.then imp (uses_ask (P := Quiet) (by trivial)) (fun _ _ hJ => imp _ hJ)
      (fun _ w₃ hw₃ => safe_run_pure.mpr ⟨imp _ hw₃, imp _ hw₃⟩) hw₂
  · refine stable.then imp ((looks_resolve ext target).mono fun _ h => h.outside.quiet)
      (fun _ _ hJ => imp _ hJ) (fun targets w₃ hw₃ => ?_) hw₂
    exact (run_safe (h targets manualTime) hw₃).run_bind (fun _ hI => hI)
      (fun _ _ hI _ => safe_run_pure.mpr ⟨hI, hI⟩) fun _ _ hI _ => hI

theorem runDecommission_safe {target : Option NodeId}
    {Q : Except Failure (List DecommissionOutcome) → World → Prop}
    (h : ∀ targets, RunKeeps ext plan config J I (.decommission targets) Q) {w : World} (hw : J w) :
    Safe (planned ext plan) I (runDecommission ext config target).run (fun _ => I) w := by
  have stable : Stable J := (h []).stable
  have stable' : Stable I := (h []).stable'
  have imp : ∀ w, J w → I w := (h []).imp
  refine stable.then imp ((looks_resolve ext target).mono fun _ h => h.outside.quiet)
    (fun _ _ hJ => imp _ hJ) (fun targets w₁ hw₁ => ?_) hw
  refine (run_safe (h targets) hw₁).run_bind (fun _ hI => hI) (fun nodes w₂ hI _ => ?_)
    fun _ _ hI _ => hI
  exact stable'.then (fun _ hI => hI) ((looks_loadOrDefault ext _).mono fun _ h => h.outside.quiet)
    (fun _ _ hI => hI) (fun _ w₃ hI => safe_run_pure.mpr ⟨hI, hI⟩) hI

end Run

end MatterTimeCtl
