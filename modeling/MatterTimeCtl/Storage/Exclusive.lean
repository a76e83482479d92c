/-
# MatterTimeCtl.Storage.Exclusive — one invocation at a time.

Two invocations never talk to devices, use the keys or change the state files at the same time.  All that is done
without the storage lock is to look, to claim the directory and to create the lock file; everything else is done
between its being granted and its being given back, and it is granted to one process.
-/
import MatterTimeCtl.Effect.Oversight
import MatterTimeCtl.Storage.Interleaving

namespace MatterTimeCtl

open Files Effect

/-- What may be called with the lock and without it. -/
def locking : Monitor Call Call.Answer Bool where
  may
    | true, c => Locked c ∨ storageLock.Releases c
    | false, c => Unlocked c
  see holds c a := match c, a with
    | .flock _, granted => granted
    | .unlock _ _, _ => false
    | _, _ => holds

theorem follows_locking : locking.Follows storageLock where
  grants {holds c a} _ granted := by
    cases c with
    | flock op => exact granted
    | _ => exact granted.elim
  releases {holds c a} _ releases := by
    cases c with
    | unlock op r => rfl
    | _ => exact releases.elim
  ignores {holds c a} may refused keeps := by
    cases c with
    | flock op =>
        cases holds with
        | true => exact (may.elim id id).elim
        | false => exact Bool.eq_false_iff.mpr refused
    | unlock op r => exact absurd trivial keeps
    | _ => rfl

section Keeping

variable (ext : Externals) (config : Config) {α β : Type}

/-- A part without the lock. -/
theorem Outside.heeds {p : Prog α} (hp : p.Uses Outside) :
    Heeds locking p (fun _ holds => holds = false) false := by
  refine Heeds.of_uses hp fun c hc => ⟨.inl hc, fun a => ?_⟩
  cases c with
  | flock op | unlock op r => exact hc.elim
  | _ => rfl

/-- A part with it. -/
theorem Locked.heeds {p : Prog α} (hp : p.Uses Locked) :
    Heeds locking p (fun _ holds => holds = true) true := by
  refine Heeds.of_uses hp fun c hc => ⟨.inl hc, fun a => ?_⟩
  cases c with
  | flock op | unlock op r => exact hc.elim
  | _ => rfl

/-- What comes after a part, without the lock before and after it. -/
theorem heeds_then {x : Action α} {f : α → Action β}
    (hx : Heeds locking x.run (fun _ holds => holds = false) false)
    (hf : ∀ a, Heeds locking (f a).run (fun _ holds => holds = false) false) :
    Heeds locking (x >>= f).run (fun _ holds => holds = false) false := by
  refine hx.run_bind (fun a holds h => ?_) fun _ _ h => h
  subst h
  exact hf a

/-- **An operation** takes the lock, does all it does with it, and gives it back. -/
theorem heeds_locking_run (op : Op) :
    Heeds locking (run ext config op).run (fun _ holds => holds = false) false := by
  unfold run
  refine heeds_then (Outside.heeds (outside_prepareStorageDir config)) fun _ => ?_
  unfold lockStorage
  simp only [bind_assoc]
  refine heeds_then (Outside.heeds (uses_ask rfl)) fun opened =>
    heeds_then (Outside.heeds (uses_orFail _ _)) fun _ => ?_
  rw [Effect.run_bind, run_ask, Program.call_bind, heeds_call]
  refine ⟨.inr ⟨op, rfl⟩, fun granted => ?_⟩
  cases granted with
  | false => exact heeds_done.mpr rfl
  | true =>
      change Heeds locking (attempt (runLocked ext config op) >>= fun result => do
        ask (.unlock op result)
        orFail id result).run _ true
      rw [run_attempt_bind, heeds_bind]
      refine (Locked.heeds (locked_runLocked ext config op)).mono fun result holds h => ?_
      subst h
      rw [Effect.run_bind, run_ask, Program.call_bind, heeds_call]
      exact ⟨.inr trivial, fun _ => Outside.heeds (uses_orFail _ _)⟩

/-- **Every invocation** keeps to the lock. -/
theorem heeds_locking (command : Command) :
    Heeds locking (runCommand ext config command).run (fun _ holds => holds = false) false := by
  have looks : ∀ {α : Type} {p : Prog α}, p.Uses Looks → Heeds locking p (fun _ holds => holds = false) false :=
    fun hp => Outside.heeds (hp.mono fun _ => Looks.outside)
  cases command with
  | status filter => exact looks (looks_status ext config filter)
  | sync target time =>
      refine heeds_then (looks (looks_manualTimeOf ext config time)) fun manualTime =>
        heeds_then (looks (uses_ask trivial)) fun ntp => ?_
      split
      · exact looks (uses_run_bind (uses_ask trivial) fun _ => uses_run_pure _)
      · exact heeds_then (looks (looks_resolve ext target)) fun targets =>
          heeds_then (heeds_locking_run ext config _) fun _ => looks (uses_run_pure _)
  | commission onboarding => exact heeds_then (heeds_locking_run ext config _) fun _ => looks (uses_run_pure _)
  | decommission target =>
      exact heeds_then (looks (looks_resolve ext target)) fun targets =>
        heeds_then (heeds_locking_run ext config _) fun _ =>
        looks (uses_run_bind (looks_loadOrDefault ext _) fun _ => uses_run_pure _)
  | inspect target =>
      refine heeds_then (looks (looks_resolveOrEmpty ext target)) fun targets => ?_
      split
      · exact looks (uses_run_pure _)
      · exact heeds_then (heeds_locking_run ext config _) fun _ => looks (uses_run_pure _)

end Keeping

/-- **One invocation at a time**, whatever the environment does: while one is at a call that is not made without the
lock, every other one is at a call that is. -/
theorem one_at_a_time {W : Type} {E : Environment W Call Call.Answer} {ext : Externals} {G : Call → W → Prop}
    {ps : Pool Call Call.Answer (Except Failure Output)} {w₀ w : W}
    (steps : Pool.Steps E storageLock (Invocations ext) G (Pool.empty, w₀) (ps, w)) {i : Nat} {c : Call}
    {next : c.Answer → Prog (Except Failure Output)} {holds : Bool} (at_ : ps i = some ⟨.call c next, holds⟩)
    (needs : ¬ Unlocked c) :
    holds = true ∧ ∀ j p, j ≠ i → ps j = some p →
      p.holds = false ∧ ∀ c' next', p.program = .call c' next' → Unlocked c' := by
  refine Pool.exclusive follows_locking (fun p hp => ?_) steps at_ needs
  obtain ⟨config, command, rfl⟩ := hp
  exact (heeds_locking ext config command).mono fun _ _ _ => trivial

/-! ## Two invocations -/

section Goes

open Scenario

variable {s : Scenario} {P : Prog (Except Failure Output) → Prop} {G : Call → World → Prop} {i : Nat} {w : World}

/-- A process that goes on from a point it has come to. -/
theorem Goes.then {p : Invocation} {R R' : Invocation → World → Prop} (h : Goes P G i p w R)
    (rest : ∀ q w', R q w' → Goes P G i q w' R') : Goes P G i p w R' := by
  intro ps free
  obtain ⟨q, w', hR, steps⟩ := h ps free
  obtain ⟨q', w'', hR', steps'⟩ := rest q w' hR ps free
  exact ⟨q', w'', hR', steps.trans steps'⟩

/-- A sync that has taken the lock, and turns to its target. -/
theorem goes_target (s : Scenario) (hw : oneDevice.Alike w) (guard : ∀ w', G (.flock (.sync [1] none)) w') :
    Goes P G i ⟨(run reference config (.sync [1] none)).run >>= syncEnd, false⟩ w fun q _ =>
      ∃ k, q = ⟨(syncOne reference Scenario.ctx 1 none).run >>= k, true⟩ := by
  refine goes_locked s (by rw [hw.same.at_ isState_identity, established_oneDevice.identity]; rfl)
    (fun w' _ => guard w') fun w₁ h₁ => ?_
  rw [runLocked_eq, Effect.run_bind, Program.bind_assoc]
  refine Goes.part (s := s) (ends_setUp_found rfl (established_oneDevice.agree (hw.trans h₁).same.files))
    (ignores_locked (locked_setUp reference config)) fun w₂ h₂ => ?_
  rw [continueWith_ok]
  change Goes P G i ⟨(SyncOp.run reference _ none [1]).run >>= _, true⟩ _ _
  unfold SyncOp.run SyncOp.step
  simp only [bind_assoc]
  rw [Effect.run_bind, Program.bind_assoc]
  refine Goes.part (s := s) (ends_updateDevice ⟨_, rfl, ⟨.refl _ _, rfl⟩, id⟩) (ignores_locked ?_)
    fun w₃ h₃ => ?_
  · exact locked_updateDevice _ _ fun _ => uses_run_bind (uses_ask trivial) fun _ => uses_run_pure _
  rw [continueWith_ok, run_attempt_bind, Program.bind_assoc]
  exact .here ⟨_, rfl⟩

/-- It goes on to dial it. -/
theorem goes_dial (s : Scenario) {ctx : Ctx} {k : Except Failure SyncOutcome → Prog (Except Failure Output)} :
    Goes P G i ⟨(syncOne reference ctx 1 none).run >>= k, true⟩ w fun q _ =>
      ∃ next, q = ⟨.call (.timed connectTimeoutSecs (.initiate 1)) next, true⟩ := by
  unfold syncOne
  rw [Effect.run_bind, Program.bind_assoc]
  have looks : s.Ends (ask .now) w (.ok w.clock) w := ⟨_, rfl, ⟨.refl _ _, rfl⟩, id⟩
  refine Goes.part looks (ignores_locked (uses_ask trivial)) fun w₁ h₁ => ?_
  exact .here ⟨_, rfl⟩

end Goes

/-- A sync dials its device, and a decommission has been started. -/
theorem decommission_waits : ∃ ps : Pool Call Call.Answer (Except Failure Output), ps 0 ≠ none ∧ ps 1 ≠ none ∧
    ∀ j p, j ≠ 0 → ps j = some p → p.holds = false ∧ ∀ c' next', p.program = .call c' next' → Unlocked c' := by
  obtain ⟨q₀, w₀, ⟨hq₀, h₀⟩, steps₀⟩ := goes_resolved (G := fun _ _ => True) (i := 0) {} Pool.empty
    fun _ _ _ => nofun
  let late : Invocation := ⟨(runCommand reference Scenario.config (.decommission none)).run, false⟩
  let pool := Function.update (Function.update Pool.empty 0 (some q₀)) 1 (some late)
  have free : ∀ j p, j ≠ 0 → pool j = some p → p.holds = false := by
    intro j p h₀ hj
    rcases update_cases hj with ⟨-, rfl⟩ | ⟨-, hj⟩
    · rfl
    · rw [Function.update_of_ne h₀] at hj
      cases hj
  obtain ⟨q, w, ⟨next, hq⟩, steps⟩ := (goes_target (i := 0) {} h₀ fun _ => trivial).then (fun q w' ⟨_, hq⟩ =>
    hq ▸ goes_dial (G := fun _ _ => True) {}) pool free
  have waiting : Function.update pool 0
      (some ⟨(run reference Scenario.config (.sync [1] none)).run >>= syncEnd, false⟩) = pool := by
    rw [← hq₀, Function.update_comm (by decide), Function.update_idem]
  rw [waiting, hq] at steps
  have started : Pool.Steps anything storageLock (Invocations reference) (fun _ _ => True)
      (Function.update Pool.empty 0 (some q₀), w₀) _ :=
    .head (.start rfl ⟨Scenario.config, .decommission none, rfl⟩) steps
  have all : Pool.Steps anything storageLock (Invocations reference) (fun _ _ => True)
      (Pool.empty, oneDevice) _ := .head (.start rfl ⟨Scenario.config, .sync none none, rfl⟩) (steps₀.trans started)
  refine ⟨_, ?_, ?_, (one_at_a_time all (Function.update_self ..) ?_).2⟩
  · simp
  · simp [pool]
  · rintro (h | ⟨op, h⟩)
    · exact h
    · cases h

end MatterTimeCtl
