/-
# MatterTimeCtl.Effect.Rely — processes that rely on each other's steps.

`Pool.invariant` is about one property of the world.  This module is about steps: every step that any process of
a pool takes is one that a relation `R` allows, and a process without the lock may rely on that of the others.
What it has learned before it got the lock is still good when it gets it, as long as no step of `R` takes it away.

A program `Bides` in a world when this is so of what it does without the lock, and `Works` when every step it takes
with the lock, alone, is one that `R` allows.  `Learns` is the judgement for a part that runs without the lock and
returns something: what it returns satisfies `Q`, although others take steps in between.
-/
import MatterTimeCtl.Effect.Pool
import MatterTimeCtl.Effect.Obey

namespace MatterTimeCtl.Effect

universe u v w x

open Relation (ReflTransGen)

variable {W : Type x} {C : Type u} {A : C → Type v} {α β : Type w}

/-! ## The judgements -/

section Judgements

variable (E : Environment W C A) (L : Lock C A) (R : W → W → Prop) (Out In : C → Prop) (G : C → W → Prop)

mutual

/-- Without the lock the program makes only calls in `Out`, and goes on well after any steps of the others. -/
inductive Bides : Program C A α → W → Prop where
  | done (a : α) (w : W) : Bides (.done a) w
  | call {c : C} {next : A c → Program C A α} {w : W} (out : Out c)
      (refused : ∀ w' m, ReflTransGen R w w' → E.admits c w' m → ¬ L.Grants c (E.answer c w' m) →
        Bides (next (E.answer c w' m)) (E.next c w' m))
      (granted : ∀ w' m, ReflTransGen R w w' → E.admits c w' m → L.Grants c (E.answer c w' m) → G c w' →
        Works (next (E.answer c w' m)) (E.next c w' m)) : Bides (.call c next) w

/-- With the lock, and if nobody interferes, the program makes only calls in `In` and takes only steps of `R`,
until it gives the lock back and bides again. -/
inductive Works : Program C A α → W → Prop where
  | call {c : C} {next : A c → Program C A α} {w : W} (within : In c)
      (follows : ∀ m, E.admits c w m → R w (E.next c w m))
      (rest : ∀ m, E.admits c w m → Works (next (E.answer c w m)) (E.next c w m)) : Works (.call c next) w
  | release {c : C} {next : A c → Program C A α} {w : W} (releases : L.Releases c)
      (follows : ∀ m, E.admits c w m → R w (E.next c w m))
      (rest : ∀ m, E.admits c w m → Bides (next (E.answer c w m)) (E.next c w m)) : Works (.call c next) w

end

/-- A part without the lock returns what satisfies `Q`, after any steps of the others. -/
def Learns : Program C A α → (α → W → Prop) → W → Prop
  | .done a, Q, w => Q a w
  | .call c next, Q, w => Out c ∧ (∀ a, ¬ L.Grants c a) ∧ ∀ w' m, ReflTransGen R w w' → E.admits c w' m →
      Learns (next (E.answer c w' m)) Q (E.next c w' m)

/-- What makes processes with the lock and without it get along, step by step. -/
structure Concord (Near : W → W → Prop) : Prop where
  discipline : Discipline E L (fun _ => True) Out In Near
  /-- A step to a near world is one that `R` allows. -/
  near : ∀ {w w'}, Near w w' → R w w'
  /-- Near worlds have the same steps. -/
  carries : ∀ {w w' v v'}, R w w' → Near w v → Near w' v' → R v v'

end Judgements

section Rules

variable {E : Environment W C A} {L : Lock C A} {R : W → W → Prop} {Out In : C → Prop} {G : C → W → Prop}
  {Near : W → W → Prop} {w w' : W}

/-! ## Building them -/

/-- The others may have taken steps. -/
theorem Bides.rely {p : Program C A α} (h : Bides E L R Out In G p w) (hw : ReflTransGen R w w') :
    Bides E L R Out In G p w' := by
  cases h with
  | done a => exact .done a w'
  | call out refused granted =>
      exact .call out (fun w'' m h => refused w'' m (hw.trans h)) fun w'' m h => granted w'' m (hw.trans h)

theorem Learns.bind {p : Program C A α} {f : α → Program C A β} {Q : α → W → Prop}
    (h : Learns E L R Out p Q w) (hf : ∀ a w', Q a w' → Bides E L R Out In G (f a) w') :
    Bides E L R Out In G (p >>= f) w := by
  induction p generalizing w with
  | done a => exact hf a w h
  | call c next ih =>
      obtain ⟨out, never, rest⟩ := h
      exact .call out (fun w' m hw hm _ => ih _ (rest w' m hw hm)) fun _ m _ _ hg => absurd hg (never _)

theorem Learns.then {p : Program C A α} {f : α → Program C A β} {Q : α → W → Prop} {Q' : β → W → Prop}
    (h : Learns E L R Out p Q w) (hf : ∀ a w', Q a w' → Learns E L R Out (f a) Q' w') :
    Learns E L R Out (p >>= f) Q' w := by
  induction p generalizing w with
  | done a => exact hf a w h
  | call c next ih => exact ⟨h.1, h.2.1, fun w' m hw hm => ih _ (h.2.2 w' m hw hm)⟩

theorem Learns.mono {p : Program C A α} {Q Q' : α → W → Prop} (h : Learns E L R Out p Q w)
    (hQ : ∀ a w', Q a w' → Q' a w') : Learns E L R Out p Q' w := by
  induction p generalizing w with
  | done a => exact hQ a w h
  | call c next ih => exact ⟨h.1, h.2.1, fun w' m hw hm => ih _ (h.2.2 w' m hw hm)⟩

/-- A whole program that has nothing to do with the lock. -/
theorem Learns.bides {p : Program C A α} {Q : α → W → Prop} (h : Learns E L R Out p Q w) :
    Bides E L R Out In G p w := by
  have h : Bides E L R Out In G (p >>= fun a => .done a) w := h.bind fun a w' _ => Bides.done a w'
  rwa [Program.bind_done] at h

/-- A part that has nothing to do with the lock learns nothing but that steps were taken. -/
theorem Learns.of_uses {U : C → Prop} {p : Program C A α} (hp : p.Uses U)
    (out : ∀ c, U c → Out c ∧ ∀ a, ¬ L.Grants c a) (step : ∀ c w m, Out c → E.admits c w m → R w (E.next c w m)) :
    Learns E L R Out p (fun _ w' => ReflTransGen R w w') w := by
  induction p generalizing w with
  | done a => exact .refl
  | call c next ih =>
      rw [Program.uses_call] at hp
      refine ⟨(out c hp.1).1, (out c hp.1).2, fun w' m hw hm => ?_⟩
      have taken := (hw.tail (step c w' m (out c hp.1).1 hm))
      exact (ih _ (hp.2 _)).mono fun _ _ h => taken.trans h

/-- A part that takes only steps of `R`, under the lock. -/
theorem Works.of_follows {p : Program C A α} {f : α → Program C A β} {Q : α → W → Prop}
    (h : Follows E R p Q w) (hp : p.Uses In)
    (rest : ∀ a w', Q a w' → Works E L R Out In G (f a) w') : Works E L R Out In G (p >>= f) w := by
  induction p generalizing w with
  | done a => exact rest a w (obeys_done.mp h)
  | call c next ih =>
      rw [Follows, obeys_call] at h
      rw [Program.uses_call] at hp
      exact .call hp.1 (fun m hm => (h m hm).1) fun m hm => ih _ (h m hm).2 (hp.2 _)

section Fallible

variable {ε : Type w} {y : ExceptT ε (Program C A) α} {f : α → ExceptT ε (Program C A) β}

theorem Learns.run_bind {Q : Except ε α → W → Prop} (h : Learns E L R Out y.run Q w)
    (hf : ∀ a w', Q (.ok a) w' → Bides E L R Out In G (f a).run w') :
    Bides E L R Out In G (y >>= f).run w := by
  rw [Effect.run_bind]
  refine h.bind fun r w' hr => ?_
  cases r with
  | ok a => exact hf a w' hr
  | error e => exact .done _ w'

/-- Two parts that learn, one after the other. -/
theorem Learns.run_then {Q : Except ε α → W → Prop} {Q' : Except ε β → W → Prop}
    (h : Learns E L R Out y.run Q w) (ok : ∀ a w', Q (.ok a) w' → Learns E L R Out (f a).run Q' w')
    (error : ∀ e w', Q (.error e) w' → Q' (.error e) w') : Learns E L R Out (y >>= f).run Q' w := by
  rw [Effect.run_bind]
  refine h.then fun r w' hr => ?_
  cases r with
  | ok a => exact ok a w' hr
  | error e => exact error e w' hr

end Fallible

/-- A program that bides, and what follows it. -/
theorem bides_works_bind {f : α → Program C A β} (I : W → Prop) (keeps : ∀ w w', R w w' → I w → I w')
    (hf : ∀ a w, I w → Bides E L R Out In G (f a) w)
    (outside : ∀ c w m, Out c → E.admits c w m → R w (E.next c w m)) (p : Program C A α) :
    (∀ w, I w → Bides E L R Out In G p w → Bides E L R Out In G (p >>= f) w) ∧
      ∀ w, I w → Works E L R Out In G p w → Works E L R Out In G (p >>= f) w := by
  have stays : ∀ {w w'}, ReflTransGen R w w' → I w → I w' := by
    intro w w' h hw
    induction h with
    | refl => exact hw
    | tail _ step ih => exact keeps _ _ step ih
  induction p with
  | done a => exact ⟨fun w hw _ => hf a w hw, fun w _ h => nomatch h⟩
  | call c next ih =>
      constructor
      · intro w hw h
        cases h with
        | call out refused granted =>
            refine .call out (fun w' m hrely hm hg => (ih _).1 _ ?_ (refused w' m hrely hm hg))
              fun w' m hrely hm hg hG => (ih _).2 _ ?_ (granted w' m hrely hm hg hG)
            all_goals exact keeps _ _ (outside c w' m out hm) (stays hrely hw)
      · intro w hw h
        cases h with
        | call within follows rest =>
            exact .call within follows fun m hm => (ih _).2 _ (keeps _ _ (follows m hm) hw) (rest m hm)
        | release releases follows rest =>
            exact .release releases follows fun m hm =>
              (ih _).1 _ (keeps _ _ (follows m hm) hw) (rest m hm)

/-! ## Interference -/

/-- The holder does not notice what the others do. -/
theorem Works.near (K : Concord E L R Out In Near) {p : Program C A α} (h : Works E L R Out In G p w)
    (hw : Near w w') : Works E L R Out In G p w' := by
  induction p generalizing w w' with
  | done a => exact nomatch h
  | call c next ih =>
      cases h with
      | call within follows rest =>
          refine .call within (fun m hm => ?_) fun m hm => ?_
          · obtain ⟨m', hm', -, hnear⟩ := K.discipline.simulates (.inl within) hw hm
            exact K.carries (follows m' hm') hw hnear
          · obtain ⟨m', hm', hanswer, hnear⟩ := K.discipline.simulates (.inl within) hw hm
            rw [← hanswer]
            exact ih _ (rest m' hm') hnear
      | release releases follows rest =>
          refine .release releases (fun m hm => ?_) fun m hm => ?_
          · obtain ⟨m', hm', -, hnear⟩ := K.discipline.simulates (.inr releases) hw hm
            exact K.carries (follows m' hm') hw hnear
          · obtain ⟨m', hm', hanswer, hnear⟩ := K.discipline.simulates (.inr releases) hw hm
            rw [← hanswer]
            exact (rest m' hm').rely (.single (K.near hnear))

/-- A process does what its judgement says. -/
def Process.Fair (E : Environment W C A) (L : Lock C A) (R : W → W → Prop) (Out In : C → Prop)
    (G : C → W → Prop) : Process C A α → W → Prop
  | ⟨p, true⟩, w => Works E L R Out In G p w
  | ⟨p, false⟩, w => Bides E L R Out In G p w

/-- **What a pool keeps up**: fair processes, and at most one holder. -/
structure Pool.Fair (E : Environment W C A) (L : Lock C A) (R : W → W → Prop) (Out In : C → Prop)
    (G : C → W → Prop) (ps : Pool C A α) (w : W) : Prop where
  processes : ∀ i p, ps i = some p → p.Fair E L R Out In G w
  single : ∀ i j p q, ps i = some p → ps j = some q → p.holds = true → q.holds = true → i = j

variable {ps : Pool C A α} {i : Nat}

theorem Process.Fair.near (K : Concord E L R Out In Near) {p : Process C A α}
    (h : p.Fair E L R Out In G w) (hw : Near w w') : p.Fair E L R Out In G w' := by
  obtain ⟨p, holds⟩ := p
  cases holds with
  | true => exact Works.near K h hw
  | false => exact Bides.rely h (.single (K.near hw))

/-- A process without the lock goes on well after a step. -/
theorem Process.Fair.rely {p : Process C A α} (h : p.Fair E L R Out In G w) (hp : p.holds = false)
    (step : R w w') : p.Fair E L R Out In G w' := by
  obtain ⟨p, holds⟩ := p
  obtain rfl : holds = false := hp
  exact Bides.rely h (.single step)

/-- A step of one process, told by what becomes of it and of the others. -/
theorem Pool.Fair.update (h : ps.Fair E L R Out In G w) {p : Process C A α}
    (fair : p.Fair E L R Out In G w') (others : ∀ j q, j ≠ i → ps j = some q → q.Fair E L R Out In G w')
    (single : p.holds = true → ∀ j q, j ≠ i → ps j = some q → q.holds = false) :
    Pool.Fair E L R Out In G (Function.update ps i (some p)) w' := by
  refine ⟨fun j q hj => ?_, fun j k q r hj' hk' hq hr => ?_⟩
  · rcases update_cases hj with ⟨-, rfl⟩ | ⟨hne, hj⟩
    · exact fair
    · exact others j q hne hj
  · rcases update_cases hj' with ⟨rfl, rfl⟩ | ⟨hjne, hj⟩
    · rcases update_cases hk' with ⟨rfl, -⟩ | ⟨hkne, hk⟩
      · rfl
      · rw [single hq k r hkne hk] at hr
        cases hr
    · rcases update_cases hk' with ⟨rfl, rfl⟩ | ⟨hkne, hk⟩
      · rw [single hr j q hjne hj] at hq
        cases hq
      · exact h.single j k q r hj hk hq hr

/-- While a process holds the lock, no other does. -/
theorem Pool.Fair.others (h : ps.Fair E L R Out In G w) {p : Process C A α} (at_ : ps i = some p)
    (hp : p.holds = true) {j : Nat} {q : Process C A α} (hne : j ≠ i) (hj : ps j = some q) :
    q.holds = false := by
  by_contra hq
  exact hne (h.single j i q p hj at_ (by simpa using hq) hp)

/-- **One step** of a fair pool is one that `R` allows, or leaves the world alone, and the pool stays fair. -/
theorem Pool.Fair.step (K : Concord E L R Out In Near) {I : W → Prop} {P : Program C A α → Prop}
    (starts : ∀ p, P p → ∀ w, I w → Bides E L R Out In G p w) {s s' : Pool C A α × W} (hI : I s.2)
    (h : s.1.Fair E L R Out In G s.2) (step : Pool.Step E L P G s s') :
    (R s.2 s'.2 ∨ s'.2 = s.2) ∧ s'.1.Fair E L R Out In G s'.2 := by
  cases step with
  | @start ps w i p idle hp =>
      exact ⟨.inr rfl, h.update (p := ⟨p, false⟩) (starts _ hp w hI) (fun j q _ hj => h.processes j q hj) nofun⟩
  | @stop ps w i =>
      have back : ∀ {j q}, Function.update ps i none j = some q → ps j = some q := by
        intro j q hj
        by_cases hji : j = i
        · subst hji
          rw [Function.update_self] at hj
          cases hj
        · rwa [Function.update_of_ne hji] at hj
      exact ⟨.inr rfl, fun j q hj => h.processes j q (back hj),
        fun j k q r hj hk => h.single j k q r (back hj) (back hk)⟩
  | @call ps w i c next holds m at_ admitted refused keeps =>
      have fair := h.processes _ _ at_
      cases holds with
      | false =>
          -- a process without the lock: the others do not notice
          cases (show Bides E L R Out In G (.call c next) w from fair) with
          | call out rest _ =>
              have near := K.discipline.outside out admitted
              exact ⟨.inl (K.near near), h.update (p := ⟨_, false⟩) (rest w m .refl admitted refused)
                (fun j q _ hj => (h.processes j q hj).near K near) nofun⟩
      | true =>
          -- the holder: the others rely on its steps
          have others : ∀ j q, j ≠ i → ps j = some q → q.holds = false := fun j q hne hj =>
            h.others at_ rfl hne hj
          cases (show Works E L R Out In G (.call c next) w from fair) with
          | call within follows rest =>
              exact ⟨.inl (follows m admitted), h.update (p := ⟨_, true⟩) (rest m admitted)
                (fun j q hne hj => (h.processes j q hj).rely (others j q hne hj) (follows m admitted))
                fun _ => others⟩
          | release releases _ _ => exact absurd releases keeps
  | @acquire ps w i c next holds m at_ admitted granted free guard =>
      have fair := h.processes _ _ at_
      have hholds : holds = false := free _ _ at_
      subst hholds
      cases (show Bides E L R Out In G (.call c next) w from fair) with
      | call out _ grant =>
          have near := K.discipline.outside out admitted
          exact ⟨.inl (K.near near), h.update (p := ⟨_, true⟩) (grant w m .refl admitted granted guard)
            (fun j q _ hj => (h.processes j q hj).near K near) fun _ j q _ hj => free j q hj⟩
  | @release ps w i c next holds m at_ admitted releases =>
      have fair := h.processes _ _ at_
      cases holds with
      | false =>
          cases (show Bides E L R Out In G (.call c next) w from fair) with
          | call out _ _ => exact absurd releases (K.discipline.mine out)
      | true =>
          have others : ∀ j q, j ≠ i → ps j = some q → q.holds = false := fun j q hne hj =>
            h.others at_ rfl hne hj
          cases (show Works E L R Out In G (.call c next) w from fair) with
          | call within _ _ => exact absurd releases (K.discipline.distinct within)
          | release _ follows rest =>
              exact ⟨.inl (follows m admitted), h.update (p := ⟨_, false⟩) (rest m admitted)
                (fun j q hne hj => (h.processes j q hj).rely (others j q hne hj) (follows m admitted)) nofun⟩

/-- **The rely rule.**  From a fair pool on, the world only takes steps that `R` allows. -/
theorem Pool.Fair.steps (K : Concord E L R Out In Near) {I : W → Prop} (keeps : ∀ w w', R w w' → I w → I w')
    {P : Program C A α → Prop} (starts : ∀ p, P p → ∀ w, I w → Bides E L R Out In G p w)
    {s s' : Pool C A α × W} (h : s.1.Fair E L R Out In G s.2) (hI : I s.2)
    (steps : Pool.Steps E L P G s s') :
    ReflTransGen R s.2 s'.2 ∧ s'.1.Fair E L R Out In G s'.2 ∧ I s'.2 := by
  induction steps with
  | refl => exact ⟨.refl, h, hI⟩
  | tail _ step ih =>
      obtain ⟨taken, fair, hw⟩ := ih
      obtain ⟨moved | same, fair'⟩ := fair.step K starts hw step
      · exact ⟨taken.tail moved, fair', keeps _ _ moved hw⟩
      · rw [same]
        exact ⟨taken, same ▸ fair', hw⟩

/-- No process at all is fair. -/
theorem Pool.fair_empty (w : W) : Pool.Fair E L R Out In G (Pool.empty : Pool C A α) w :=
  ⟨(fun _ _ h => nomatch h), fun _ _ _ _ h => nomatch h⟩

end Rules

end MatterTimeCtl.Effect
