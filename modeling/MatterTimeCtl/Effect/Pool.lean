/-
# MatterTimeCtl.Effect.Pool — processes over one world, and a lock between them.

A `Pool` is any number of processes, each a program that has come to some point, over one world.  They
take their calls in any order; new processes start and running ones are stopped at any moment.  One of
the calls may be granted a lock: only while nobody holds it, and a process that is stopped gives it up.

The rule of the module (`Pool.invariant`) reduces an invariant of all interleavings to facts about single
programs.  A program `Waits` when all it does without the lock is of no consequence to a holder, and
`Holds` when what it does with the lock, alone, keeps the invariant.  What the others do in between
takes the world to a `Near` one, in which the holder can do nothing that it could not have done before.
-/
import MatterTimeCtl.Effect.Environment
import Mathlib.Logic.Function.Basic

namespace MatterTimeCtl.Effect

universe u v w x y

/-- Which answers to a call grant the lock, and which calls give it back. -/
structure Lock (C : Type u) (A : C → Type v) where
  Grants : (c : C) → A c → Prop
  Releases : C → Prop

/-- A process: what is left of its program, and whether it holds the lock. -/
structure Process (C : Type u) (A : C → Type v) (α : Type w) where
  program : Program C A α
  holds : Bool

/-- Processes by number. -/
abbrev Pool (C : Type u) (A : C → Type v) (α : Type w) := Nat → Option (Process C A α)

section Pool

variable {W : Type x} {C : Type u} {A : C → Type v} {α : Type w}

/-- Nobody holds the lock. -/
def Pool.Free (ps : Pool C A α) : Prop := ∀ i p, ps i = some p → p.holds = false

/-- One step of a pool: a process starts or is stopped, or one of them makes its next call.  The lock is
granted only while it is free, by a call `c` in a world `w` with `G c w`. -/
inductive Pool.Step (E : Environment W C A) (L : Lock C A) (P : Program C A α → Prop)
    (G : C → W → Prop) : Pool C A α × W → Pool C A α × W → Prop where
  | start {ps : Pool C A α} {w : W} {i : Nat} {p : Program C A α} (idle : ps i = none) (hp : P p) :
      Pool.Step E L P G (ps, w) (Function.update ps i (some ⟨p, false⟩), w)
  | stop {ps : Pool C A α} {w : W} (i : Nat) :
      Pool.Step E L P G (ps, w) (Function.update ps i none, w)
  | call {ps : Pool C A α} {w : W} {i : Nat} {c : C} {next : A c → Program C A α} {holds : Bool}
      {m : E.Move c} (at_ : ps i = some ⟨.call c next, holds⟩) (admitted : E.admits c w m)
      (refused : ¬ L.Grants c (E.answer c w m)) (keeps : ¬ L.Releases c) :
      Pool.Step E L P G (ps, w)
        (Function.update ps i (some ⟨next (E.answer c w m), holds⟩), E.next c w m)
  | acquire {ps : Pool C A α} {w : W} {i : Nat} {c : C} {next : A c → Program C A α} {holds : Bool}
      {m : E.Move c} (at_ : ps i = some ⟨.call c next, holds⟩) (admitted : E.admits c w m)
      (granted : L.Grants c (E.answer c w m)) (free : ps.Free) (guard : G c w) :
      Pool.Step E L P G (ps, w)
        (Function.update ps i (some ⟨next (E.answer c w m), true⟩), E.next c w m)
  | release {ps : Pool C A α} {w : W} {i : Nat} {c : C} {next : A c → Program C A α} {holds : Bool}
      {m : E.Move c} (at_ : ps i = some ⟨.call c next, holds⟩) (admitted : E.admits c w m)
      (releases : L.Releases c) :
      Pool.Step E L P G (ps, w)
        (Function.update ps i (some ⟨next (E.answer c w m), false⟩), E.next c w m)

/-- Any number of steps. -/
def Pool.Steps (E : Environment W C A) (L : Lock C A) (P : Program C A α → Prop) (G : C → W → Prop) :
    Pool C A α × W → Pool C A α × W → Prop := Relation.ReflTransGen (Pool.Step E L P G)

/-- The call has nothing to do with the lock. -/
def Lock.Ignores (L : Lock C A) (c : C) : Prop := (∀ a, ¬ L.Grants c a) ∧ ¬ L.Releases c

/-- A process runs a part of its program that has nothing to do with the lock. -/
theorem Pool.Steps.of_exec {β : Type w} {E : Environment W C A} {L : Lock C A}
    {P : Program C A α → Prop} {G : C → W → Prop} {p q : Program C A β} {tr : List (Event E)} {w w' : W}
    (hx : Exec E p w tr q w') (hp : p.Uses L.Ignores) (ps : Pool C A α) (i : Nat) (holds : Bool)
    (f : β → Program C A α) :
    Pool.Steps E L P G (Function.update ps i (some ⟨p >>= f, holds⟩), w)
      (Function.update ps i (some ⟨q >>= f, holds⟩), w') := by
  induction hx with
  | stop p w => exact .refl
  | @call c next w m tr q w' admitted rest ih =>
      rw [Program.uses_call] at hp
      have at_ : Function.update ps i (some ⟨.call c next >>= f, holds⟩) i =
          some ⟨.call c fun a => next a >>= f, holds⟩ := Function.update_self ..
      have step := Pool.Step.call (P := P) (G := G) at_ admitted (hp.1.1 _) hp.1.2
      rw [Function.update_idem] at step
      exact .head step (ih (hp.2 _))

/-- Every interleaving is a watched one. -/
theorem Pool.Steps.watch {σ : Type y} {E : Environment W C A} {L : Lock C A} {P : Program C A α → Prop}
    {G : C → W → Prop} (see : σ → (c : C) → A c → σ) {s s' : Pool C A α × W} (steps : Pool.Steps E L P G s s')
    (seen : σ) : ∃ seen', Pool.Steps (E.watch see) L P (fun c v => G c v.1) (s.1, s.2, seen) (s'.1, s'.2, seen') := by
  induction steps with
  | refl => exact ⟨seen, .refl⟩
  | tail _ step ih =>
      obtain ⟨seen', before⟩ := ih
      cases step with
      | start idle hp => exact ⟨_, before.tail (.start idle hp)⟩
      | stop i => exact ⟨_, before.tail (.stop i)⟩
      | call at_ admitted refused keeps =>
          exact ⟨_, before.tail (.call (E := E.watch see) at_ admitted refused keeps)⟩
      | acquire at_ admitted granted free guard =>
          exact ⟨_, before.tail (.acquire (E := E.watch see) at_ admitted granted free guard)⟩
      | release at_ admitted releases =>
          exact ⟨_, before.tail (.release (E := E.watch see) at_ admitted releases)⟩

/-- What came to hold came to hold in one of the steps. -/
theorem Pool.Steps.crosses {E : Environment W C A} {L : Lock C A} {P : Program C A α → Prop} {G : C → W → Prop}
    {Q : Pool C A α × W → Prop} {s s' : Pool C A α × W} (steps : Pool.Steps E L P G s s') (before : ¬ Q s)
    (after : Q s') : ∃ t t', Pool.Steps E L P G s t ∧ Pool.Step E L P G t t' ∧ ¬ Q t ∧ Q t' := by
  induction steps with
  | refl => exact absurd after before
  | @tail t t' steps step ih =>
      by_cases earlier : Q t
      · exact ih earlier
      · exact ⟨t, t', steps, step, earlier, after⟩

/-- No process at all. -/
def Pool.empty : Pool C A α := fun _ => none

end Pool

/-! ## What programs do without the lock, and with it -/

section Judgements

variable {W : Type x} {C : Type u} {A : C → Type v} {α β : Type w}

variable (E : Environment W C A) (L : Lock C A) (I : W → Prop) (Out In : C → Prop) (G : C → W → Prop)

mutual

/-- Without the lock the program makes only calls in `Out`; granted the lock where the invariant and the
guard hold, it holds it well. -/
inductive Waits : Program C A α → Prop where
  | done (a : α) : Waits (.done a)
  | call {c : C} {next : A c → Program C A α} (out : Out c)
      (refused : ∀ a, ¬ L.Grants c a → Waits (next a))
      (granted : ∀ w m, E.admits c w m → L.Grants c (E.answer c w m) → I w → G c w →
        Holds (next (E.answer c w m)) (E.next c w m)) : Waits (.call c next)

/-- With the lock, and if nobody interferes, the program makes only calls in `In` and keeps the
invariant, until it gives the lock back and waits again. -/
inductive Holds : Program C A α → W → Prop where
  | call {c : C} {next : A c → Program C A α} {w : W} (within : In c)
      (keeps : ∀ m, E.admits c w m → I (E.next c w m))
      (rest : ∀ m, E.admits c w m → Holds (next (E.answer c w m)) (E.next c w m)) :
      Holds (.call c next) w
  | release {c : C} {next : A c → Program C A α} {w : W} (releases : L.Releases c)
      (keeps : ∀ m, E.admits c w m → I (E.next c w m)) (rest : ∀ a, Waits (next a)) :
      Holds (.call c next) w

end

/-- What makes processes with the lock and without it get along. -/
structure Discipline (Near : W → W → Prop) : Prop where
  /-- What is done without the lock leads to a near world. -/
  outside : ∀ {c w m}, Out c → E.admits c w m → Near w (E.next c w m)
  /-- The invariant does not tell near worlds apart. -/
  keeps : ∀ {w w'}, Near w w' → I w → I w'
  /-- What a holder can do in a near world it could have done before. -/
  simulates : ∀ {c w w' m}, In c ∨ L.Releases c → Near w w' → E.admits c w' m →
    ∃ m', E.admits c w m' ∧ E.answer c w m' = E.answer c w' m ∧ Near (E.next c w m') (E.next c w' m)
  /-- Only a holder gives the lock back, and that is all it does with it. -/
  mine : ∀ {c}, Out c → ¬ L.Releases c
  distinct : ∀ {c}, In c → ¬ L.Releases c

end Judgements

section Rules

variable {W : Type x} {C : Type u} {A : C → Type v} {α β : Type w}
  {E : Environment W C A} {L : Lock C A} {I : W → Prop} {Out In : C → Prop} {G : C → W → Prop}
  {Near : W → W → Prop}

/-! ### Building the judgements -/

/-- Sequencing, for both judgements at once: the induction goes through the lock. -/
theorem waits_holds_bind {f : α → Program C A β} (hf : ∀ a, Waits E L I Out In G (f a))
    (p : Program C A α) :
    (Waits E L I Out In G p → Waits E L I Out In G (p >>= f)) ∧
      ∀ w, Holds E L I Out In G p w → Holds E L I Out In G (p >>= f) w := by
  induction p with
  | done a => exact ⟨fun _ => hf a, fun w h => nomatch h⟩
  | call c next ih =>
      constructor
      · intro h
        cases h with
        | call out refused granted =>
            exact .call out (fun a ha => (ih a).1 (refused a ha))
              fun w m hm hg hw hG => (ih _).2 _ (granted w m hm hg hw hG)
      · intro w h
        cases h with
        | call within keeps rest => exact .call within keeps fun m hm => (ih _).2 _ (rest m hm)
        | release releases keeps rest => exact .release releases keeps fun a => (ih a).1 (rest a)

theorem Waits.bind {p : Program C A α} {f : α → Program C A β} (h : Waits E L I Out In G p)
    (hf : ∀ a, Waits E L I Out In G (f a)) : Waits E L I Out In G (p >>= f) :=
  (waits_holds_bind hf p).1 h

/-- A part that has nothing to do with the lock. -/
theorem Waits.of_uses {U : C → Prop} {p : Program C A α} (hp : p.Uses U)
    (out : ∀ c, U c → Out c ∧ ∀ a, ¬ L.Grants c a) : Waits E L I Out In G p := by
  induction p with
  | done a => exact .done a
  | call c next ih =>
      rw [Program.uses_call] at hp
      obtain ⟨hout, hno⟩ := out c hp.1
      exact .call hout (fun a _ => ih a (hp.2 a)) fun w m _ hg => absurd hg (hno _)

/-- A part that is safe on its own, under the lock. -/
theorem Holds.of_safe {p : Program C A α} {f : α → Program C A β} {Q : α → W → Prop} {w : W}
    (h : Safe E I p Q w) (hp : p.Uses In)
    (rest : ∀ a w', I w' → Q a w' → Holds E L I Out In G (f a) w') :
    Holds E L I Out In G (p >>= f) w := by
  induction p generalizing w with
  | done a =>
      rw [safe_done] at h
      exact rest a w h.1 h.2
  | call c next ih =>
      rw [safe_call] at h
      rw [Program.uses_call] at hp
      exact .call hp.1 (fun m hm => (h.2 m hm).here) fun m hm => ih _ (h.2 m hm) (hp.2 _)

section Fallible

variable {ε : Type w}

theorem Waits.run_bind {y : ExceptT ε (Program C A) α} {f : α → ExceptT ε (Program C A) β}
    (h : Waits E L I Out In G y.run) (hf : ∀ a, Waits E L I Out In G (f a).run) :
    Waits E L I Out In G (y >>= f).run := by
  rw [Effect.run_bind]
  refine h.bind fun r => ?_
  cases r with
  | ok a => exact hf a
  | error e => exact .done _

end Fallible

/-! ### Interference -/

/-- The holder does not notice what the others do. -/
theorem Holds.near (D : Discipline E L I Out In Near) {p : Program C A α} {w w' : W}
    (h : Holds E L I Out In G p w) (hw : Near w w') : Holds E L I Out In G p w' := by
  induction p generalizing w w' with
  | done a => exact nomatch h
  | call c next ih =>
      cases h with
      | call within keeps rest =>
          refine .call within (fun m hm => ?_) fun m hm => ?_
          · obtain ⟨m', hm', -, hnear⟩ := D.simulates (.inl within) hw hm
            exact D.keeps hnear (keeps m' hm')
          · obtain ⟨m', hm', hanswer, hnear⟩ := D.simulates (.inl within) hw hm
            rw [← hanswer]
            exact ih _ (rest m' hm') hnear
      | release releases keeps rest =>
          refine .release releases (fun m hm => ?_) rest
          obtain ⟨m', hm', -, hnear⟩ := D.simulates (.inr releases) hw hm
          exact D.keeps hnear (keeps m' hm')

/-- A process does what its judgement says. -/
def Process.Tame (E : Environment W C A) (L : Lock C A) (I : W → Prop) (Out In : C → Prop)
    (G : C → W → Prop) : Process C A α → W → Prop
  | ⟨p, true⟩, w => Holds E L I Out In G p w
  | ⟨p, false⟩, _ => Waits E L I Out In G p

/-- **The invariant of a pool**: that of the world, tame processes, and at most one holder. -/
structure Pool.Tame (E : Environment W C A) (L : Lock C A) (I : W → Prop) (Out In : C → Prop)
    (G : C → W → Prop) (ps : Pool C A α) (w : W) : Prop where
  world : I w
  processes : ∀ i p, ps i = some p → p.Tame E L I Out In G w
  single : ∀ i j p q, ps i = some p → ps j = some q → p.holds = true → q.holds = true → i = j

variable {ps : Pool C A α} {w w' : W} {i : Nat}

/-- Some other process than `i`, or `i` as it is now. -/
theorem update_cases {p q : Process C A α} {j : Nat}
    (h : Function.update ps i (some p) j = some q) : (j = i ∧ q = p) ∨ (j ≠ i ∧ ps j = some q) := by
  by_cases hj : j = i
  · subst hj
    rw [Function.update_self] at h
    exact .inl ⟨rfl, (Option.some.inj h).symm⟩
  · rw [Function.update_of_ne hj] at h
    exact .inr ⟨hj, h⟩

/-- Some process, after another was stopped. -/
theorem of_update_none {q : Process C A α} {j : Nat} (h : Function.update ps i none j = some q) :
    ps j = some q := by
  by_cases hj : j = i
  · subst hj
    rw [Function.update_self] at h
    cases h
  · rwa [Function.update_of_ne hj] at h

/-- One holder at most, after a step of one process. -/
theorem single_update {p : Process C A α}
    (h : ∀ i j p q, ps i = some p → ps j = some q → p.holds = true → q.holds = true → i = j)
    (single : p.holds = true → ∀ j q, j ≠ i → ps j = some q → q.holds = false) (j k : Nat)
    (q r : Process C A α) (hj' : Function.update ps i (some p) j = some q)
    (hk' : Function.update ps i (some p) k = some r) (hq : q.holds = true) (hr : r.holds = true) : j = k := by
  rcases update_cases hj' with ⟨rfl, rfl⟩ | ⟨hjne, hj⟩
  · rcases update_cases hk' with ⟨rfl, -⟩ | ⟨hkne, hk⟩
    · rfl
    · rw [single hq k r hkne hk] at hr
      cases hr
  · rcases update_cases hk' with ⟨rfl, rfl⟩ | ⟨hkne, hk⟩
    · rw [single hr j q hjne hj] at hq
      cases hq
    · exact h j k q r hj hk hq hr

/-- A step of one process, told by what becomes of it and of the others. -/
theorem Pool.Tame.update (h : ps.Tame E L I Out In G w) {p : Process C A α} (world : I w')
    (tame : p.Tame E L I Out In G w')
    (others : ∀ j q, j ≠ i → ps j = some q → q.Tame E L I Out In G w')
    (single : p.holds = true → ∀ j q, j ≠ i → ps j = some q → q.holds = false) :
    Pool.Tame E L I Out In G (Function.update ps i (some p)) w' := by
  refine ⟨world, fun j q hj => ?_, single_update h.single single⟩
  rcases update_cases hj with ⟨-, rfl⟩ | ⟨hne, hj⟩
  · exact tame
  · exact others j q hne hj

theorem Process.Tame.near (D : Discipline E L I Out In Near) {p : Process C A α}
    (h : p.Tame E L I Out In G w) (hw : Near w w') : p.Tame E L I Out In G w' := by
  obtain ⟨p, holds⟩ := p
  cases holds with
  | true => exact Holds.near D h hw
  | false => exact h

/-- A process that does not hold the lock is tame in every world. -/
theorem Process.Tame.anywhere {p : Process C A α} (h : p.Tame E L I Out In G w)
    (hp : p.holds = false) : p.Tame E L I Out In G w' := by
  obtain ⟨p, holds⟩ := p
  obtain rfl : holds = false := hp
  exact h

/-- While a process holds the lock, no other does. -/
theorem Pool.Tame.others (h : ps.Tame E L I Out In G w) {p : Process C A α} (at_ : ps i = some p)
    (hp : p.holds = true) {j : Nat} {q : Process C A α} (hne : j ≠ i) (hj : ps j = some q) :
    q.holds = false := by
  by_contra hq
  exact hne (h.single j i q p hj at_ (by simpa using hq) hp)

/-- **One step** of a pool keeps its invariant. -/
theorem Pool.Tame.step (D : Discipline E L I Out In Near) {P : Program C A α → Prop}
    (starts : ∀ p, P p → Waits E L I Out In G p) {s s' : Pool C A α × W}
    (h : s.1.Tame E L I Out In G s.2) (step : Pool.Step E L P G s s') :
    s'.1.Tame E L I Out In G s'.2 := by
  cases step with
  | start idle hp =>
      exact h.update h.world (starts _ hp) (fun j q _ hj => h.processes j q hj) nofun
  | @stop ps w i =>
      exact ⟨h.world, fun j q hj => h.processes j q (of_update_none hj),
        fun j k q r hj hk => h.single j k q r (of_update_none hj) (of_update_none hk)⟩
  | @call ps w i c next holds m at_ admitted refused keeps =>
      have tame := h.processes _ _ at_
      cases holds with
      | false =>
          -- a process without the lock: the others do not notice
          cases (show Waits E L I Out In G (.call c next) from tame) with
          | call out rest _ =>
              have near := D.outside out admitted
              exact h.update (D.keeps near h.world) (rest _ refused)
                (fun j q _ hj => (h.processes j q hj).near D near) nofun
      | true =>
          -- the holder: the others do not hold the lock, so they do not notice either
          have others : ∀ j q, j ≠ i → ps j = some q → q.holds = false := fun j q hne hj =>
            h.others at_ rfl hne hj
          cases (show Holds E L I Out In G (.call c next) w from tame) with
          | call within keepsI rest =>
              exact h.update (keepsI m admitted) (rest m admitted)
                (fun j q hne hj => (h.processes j q hj).anywhere (others j q hne hj)) fun _ => others
          | release releases _ _ => exact absurd releases keeps
  | @acquire ps w i c next holds m at_ admitted granted free guard =>
      have tame := h.processes _ _ at_
      have hholds : holds = false := free _ _ at_
      subst hholds
      cases (show Waits E L I Out In G (.call c next) from tame) with
      | call out _ grant =>
          have near := D.outside out admitted
          exact h.update (D.keeps near h.world) (grant w m admitted granted h.world guard)
            (fun j q _ hj => (h.processes j q hj).near D near) fun _ j q _ hj => free j q hj
  | @release ps w i c next holds m at_ admitted releases =>
      have tame := h.processes _ _ at_
      cases holds with
      | false =>
          cases (show Waits E L I Out In G (.call c next) from tame) with
          | call out _ _ => exact absurd releases (D.mine out)
      | true =>
          have others : ∀ j q, j ≠ i → ps j = some q → q.holds = false := fun j q hne hj =>
            h.others at_ rfl hne hj
          cases (show Holds E L I Out In G (.call c next) w from tame) with
          | call within _ _ => exact absurd releases (D.distinct within)
          | release _ keepsI rest =>
              exact h.update (keepsI m admitted) (rest _)
                (fun j q hne hj => (h.processes j q hj).anywhere (others j q hne hj)) nofun

/-- **The pool rule.** -/
theorem Pool.invariant (D : Discipline E L I Out In Near) {P : Program C A α → Prop}
    (starts : ∀ p, P p → Waits E L I Out In G p) {ps : Pool C A α} {w₀ w : W}
    (steps : Pool.Steps E L P G (Pool.empty, w₀) (ps, w)) (hw : I w₀) : I w := by
  have h : ∀ s, Pool.Steps E L P G (Pool.empty, w₀) s → s.1.Tame E L I Out In G s.2 := by
    intro s steps
    induction steps with
    | refl => exact ⟨hw, (fun _ _ h => nomatch h), fun _ _ _ _ h => nomatch h⟩
    | tail _ step ih => exact ih.step D starts step
  exact (h _ steps).world

end Rules

end MatterTimeCtl.Effect
