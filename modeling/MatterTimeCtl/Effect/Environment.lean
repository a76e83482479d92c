/-
# MatterTimeCtl.Effect.Environment — running a program against a world, with stops anywhere.

An `Environment` says what each call does.  Everything the program does not decide — which fault
strikes, what a peer replies, how long a step takes — is a *move* of the environment: `admits` says
which moves are possible in a world, `answer` what the program gets to see of the move, and `next`
what becomes of the world.  A move may carry more than its answer shows (a request that took effect
although the reply was lost), and the program cannot look at that part.

`Exec E p w tr q w'` is a run of `p` from `w` that made the moves `tr` and has come to the point where
`q` is still to be run and the world is `w'`.  Nothing forces a run to go on, so a program that is
killed between two calls is an `Exec` with a `q` that is not a leaf.

`Safe E I p Q w` is the matching program logic: `I` holds of the world at *every* point of every run
of `p` from `w`, and `Q` holds of the value and the world of every run that completes.  It is computed
by recursion on the tree, it is exact for `Exec` (`safe_iff_exec`), and the rules below (one for each
way to build a program) are how the rest of the development reasons about runs.
-/
import MatterTimeCtl.Effect.Program
import Mathlib.Logic.Relation

namespace MatterTimeCtl.Effect

universe u v w x y

/-- What the calls of an alphabet do to worlds of type `W`. -/
structure Environment (W : Type x) (C : Type u) (A : C → Type v) where
  Move : C → Type v
  admits : (c : C) → W → Move c → Prop
  answer : (c : C) → W → Move c → A c
  next : (c : C) → W → Move c → W

/-- One step of a run: a call and the environment's move on it. -/
abbrev Event {W : Type x} {C : Type u} {A : C → Type v} (E : Environment W C A) :=
  Σ c : C, E.Move c

section Runs

variable {W : Type x} {C : Type u} {A : C → Type v} {α β : Type w}

/-- **A run, stopped anywhere.**  From program `p` in world `w`, after the moves `tr`, the program
`q` is left to run in world `w'`. -/
inductive Exec (E : Environment W C A) :
    Program C A α → W → List (Event E) → Program C A α → W → Prop where
  | stop (p : Program C A α) (w : W) : Exec E p w [] p w
  | call {c : C} {next : A c → Program C A α} {w : W} {m : E.Move c} {tr : List (Event E)}
      {q : Program C A α} {w' : W} (admitted : E.admits c w m)
      (rest : Exec E (next (E.answer c w m)) (E.next c w m) tr q w') :
      Exec E (.call c next) w (⟨c, m⟩ :: tr) q w'

variable {E : Environment W C A}

theorem Exec.trans {p q r : Program C A α} {w₀ w₁ w₂ : W} {tr₁ tr₂ : List (Event E)}
    (h₁ : Exec E p w₀ tr₁ q w₁) (h₂ : Exec E q w₁ tr₂ r w₂) : Exec E p w₀ (tr₁ ++ tr₂) r w₂ := by
  induction h₁ with
  | stop p w => exact h₂
  | call admitted rest ih => exact .call admitted (ih h₂)

theorem Exec.bind {p q : Program C A α} {w w' : W} {tr : List (Event E)}
    (h : Exec E p w tr q w') (f : α → Program C A β) : Exec E (p >>= f) w tr (q >>= f) w' := by
  induction h with
  | stop p w => exact .stop _ _
  | call admitted rest ih => exact .call admitted ih

/-- A leaf has no step left to make. -/
theorem Exec.of_done {a : α} {w w' : W} {tr : List (Event E)} {q : Program C A α}
    (h : Exec E (.done a) w tr q w') : tr = [] ∧ q = .done a ∧ w' = w := by
  cases h
  exact ⟨rfl, rfl, rfl⟩

/-- Every call has a move in every world: no run gets stuck before a leaf. -/
def Environment.Live (E : Environment W C A) : Prop := ∀ c w, ∃ m, E.admits c w m

theorem exec_complete (hE : E.Live) (p : Program C A α) (w : W) :
    ∃ tr a w', Exec E p w tr (.done a) w' := by
  induction p generalizing w with
  | done a => exact ⟨[], a, w, .stop _ _⟩
  | call c next ih =>
      obtain ⟨m, hm⟩ := hE c w
      obtain ⟨tr, a, w', h⟩ := ih (E.answer c w m) (E.next c w m)
      exact ⟨⟨c, m⟩ :: tr, a, w', .call hm h⟩

end Runs

/-! ## The program logic -/

section Logic

variable {W : Type x} {C : Type u} {A : C → Type v} {α β : Type w}

/-- **Safety with stops.**  At every point of every run of the program from `w` the world satisfies
`I`, and a completed run returns a value and a world that satisfy `Q`. -/
def Safe (E : Environment W C A) (I : W → Prop) :
    Program C A α → (α → W → Prop) → W → Prop
  | .done a, Q, w => I w ∧ Q a w
  | .call c next, Q, w =>
      I w ∧ ∀ m, E.admits c w m → Safe E I (next (E.answer c w m)) Q (E.next c w m)

variable {E : Environment W C A} {I J : W → Prop}

@[simp] theorem safe_done {a : α} {Q : α → W → Prop} {w : W} :
    Safe E I (.done a) Q w ↔ I w ∧ Q a w := Iff.rfl

@[simp] theorem safe_call {c : C} {next : A c → Program C A α} {Q : α → W → Prop} {w : W} :
    Safe E I (.call c next) Q w ↔
      I w ∧ ∀ m, E.admits c w m → Safe E I (next (E.answer c w m)) Q (E.next c w m) := Iff.rfl

-- from here on the judgement is only taken apart by the lemmas about it
attribute [irreducible] Safe

theorem Safe.here {p : Program C A α} {Q : α → W → Prop} {w : W} (h : Safe E I p Q w) : I w := by
  cases p with
  | done a => exact (safe_done.mp h).1
  | call c next => exact (safe_call.mp h).1

theorem Safe.mono {p : Program C A α} {Q R : α → W → Prop} {w : W} (h : Safe E I p Q w)
    (hI : ∀ w', I w' → J w') (hQ : ∀ a w', I w' → Q a w' → R a w') : Safe E J p R w := by
  induction p generalizing w with
  | done a =>
      rw [safe_done] at h ⊢
      exact ⟨hI w h.1, hQ a w h.1 h.2⟩
  | call c next ih =>
      rw [safe_call] at h ⊢
      exact ⟨hI w h.1, fun m hm => ih _ (h.2 m hm)⟩

theorem safe_bind {p : Program C A α} {f : α → Program C A β} {Q : β → W → Prop} {w : W} :
    Safe E I (p >>= f) Q w ↔ Safe E I p (fun a w' => Safe E I (f a) Q w') w := by
  induction p generalizing w with
  | done a =>
      rw [Program.done_bind, safe_done]
      exact ⟨fun h => ⟨h.here, h⟩, fun h => h.2⟩
  | call c next ih =>
      rw [Program.call_bind, safe_call, safe_call]
      exact and_congr_right fun _ => forall₂_congr fun m _ => ih _

/-- The logic says exactly what it is meant to say about runs. -/
theorem safe_iff_exec {p : Program C A α} {Q : α → W → Prop} {w : W} :
    Safe E I p Q w ↔
      ∀ tr q w', Exec E p w tr q w' → I w' ∧ ∀ a, q = .done a → Q a w' := by
  constructor
  · intro h tr q w' hx
    induction hx with
    | stop p w =>
        refine ⟨h.here, fun a hp => ?_⟩
        subst hp
        exact (safe_done.mp h).2
    | call admitted rest ih => exact ih ((safe_call.mp h).2 _ admitted)
  · intro h
    induction p generalizing w with
    | done a =>
        obtain ⟨hI, hQ⟩ := h [] _ _ (.stop _ _)
        exact safe_done.mpr ⟨hI, hQ a rfl⟩
    | call c next ih =>
        refine safe_call.mpr ⟨(h [] _ _ (.stop _ _)).1, fun m hm => ih _ fun tr q w' hx => ?_⟩
        exact h _ _ _ (.call hm hx)

theorem Safe.exec {p q : Program C A α} {Q : α → W → Prop} {w w' : W} {tr : List (Event E)}
    (h : Safe E I p Q w) (hx : Exec E p w tr q w') : I w' :=
  (safe_iff_exec.mp h tr q w' hx).1

theorem Safe.result {p : Program C A α} {Q : α → W → Prop} {w w' : W} {tr : List (Event E)} {a : α}
    (h : Safe E I p Q w) (hx : Exec E p w tr (.done a) w') : Q a w' :=
  (safe_iff_exec.mp h tr _ w' hx).2 a rfl

/-- What every permitted call preserves, the whole program preserves. -/
theorem Safe.of_uses {P : C → Prop} {p : Program C A α} {w : W} (hp : p.Uses P)
    (step : ∀ c w m, P c → E.admits c w m → J w → J (E.next c w m)) (hw : J w) :
    Safe E J p (fun _ => J) w := by
  induction p generalizing w with
  | done a => exact safe_done.mpr ⟨hw, hw⟩
  | call c next ih =>
      rw [Program.uses_call] at hp
      exact safe_call.mpr ⟨hw, fun m hm => ih _ (hp.2 _) (step c w m hp.1 hm hw)⟩

/-- What a program can return at all, it returns in every run. -/
theorem Safe.and_returns {R : α → Prop} {p : Program C A α} {Q : α → W → Prop} {w : W}
    (h : Safe E I p Q w) (hp : p.Returns R) : Safe E I p (fun a w' => Q a w' ∧ R a) w := by
  induction p generalizing w with
  | done a =>
      rw [safe_done] at h ⊢
      exact ⟨h.1, h.2, Program.returns_done.mp hp⟩
  | call c next ih =>
      rw [safe_call] at h ⊢
      rw [Program.returns_call] at hp
      exact ⟨h.1, fun m hm => ih _ (h.2 m hm) (hp _)⟩

/-- What a program returns whatever it is answered, it returns in every run. -/
theorem safe_of_returns {R : α → Prop} {p : Program C A α} (hp : p.Returns R) (w : W) :
    Safe E (fun _ => True) p (fun a _ => R a) w := by
  have anything : Safe E (fun _ => True) p (fun _ _ => True) w :=
    safe_iff_exec.mpr fun _ _ _ _ => ⟨trivial, fun _ _ => trivial⟩
  exact (anything.and_returns hp).mono (fun _ h => h) fun _ _ _ h => h.2

/-! ## Programs that can fail -/

section Fallible

variable {ε : Type w} {x : ExceptT ε (Program C A) α} {f : α → ExceptT ε (Program C A) β}

theorem safe_run_pure {a : α} {Q : Except ε α → W → Prop} {w : W} :
    Safe E I (pure a : ExceptT ε (Program C A) α).run Q w ↔ I w ∧ Q (.ok a) w := safe_done

theorem safe_run_throw {e : ε} {Q : Except ε α → W → Prop} {w : W} :
    Safe E I (throw e : ExceptT ε (Program C A) α).run Q w ↔ I w ∧ Q (.error e) w := safe_done

/-- **Sequencing.**  Prove the first part with its own invariant and result; go on with the second
after a value, and be done after an error. -/
theorem Safe.run_bind {R : Except ε α → W → Prop} {Q : Except ε β → W → Prop} {w : W}
    (hx : Safe E J x.run R w) (hJ : ∀ w', J w' → I w')
    (ok : ∀ a w', J w' → R (.ok a) w' → Safe E I (f a).run Q w')
    (error : ∀ e w', J w' → R (.error e) w' → Q (.error e) w') : Safe E I (x >>= f).run Q w := by
  rw [Effect.run_bind, safe_bind]
  refine hx.mono hJ fun r w' hw hr => ?_
  cases r with
  | ok a => exact ok a w' hw hr
  | error e => exact safe_done.mpr ⟨hJ w' hw, error e w' hw hr⟩

end Fallible

/-! ## Other environments -/

/-- The environment that makes only those moves of `E` that satisfy `P`. -/
def Environment.restrict (E : Environment W C A) (P : (c : C) → W → E.Move c → Prop) :
    Environment W C A where
  Move := E.Move
  admits c w m := E.admits c w m ∧ P c w m
  answer := E.answer
  next := E.next

/-- The environment with a watcher, who sees every call with its answer and changes nothing. -/
def Environment.watch {σ : Type y} (E : Environment W C A) (see : σ → (c : C) → A c → σ) :
    Environment (W × σ) C A where
  Move := E.Move
  admits c v m := E.admits c v.1 m
  answer c v m := E.answer c v.1 m
  next c v m := (E.next c v.1 m, see v.2 c (E.answer c v.1 m))

end Logic

/-! ## Sequences of runs -/

section Sessions

variable {W : Type x} {C : Type u} {A : C → Type v} {α : Type w}

/-- One run of one of the programs in `P`, stopped anywhere, takes the world from `w` to `w'`. -/
def Session (E : Environment W C A) (P : Program C A α → Prop) (w w' : W) : Prop :=
  ∃ p tr q, P p ∧ Exec E p w tr q w'

/-- Any number of runs, one after the other, each stopped anywhere. -/
def Sessions (E : Environment W C A) (P : Program C A α → Prop) : W → W → Prop :=
  Relation.ReflTransGen (Session E P)

/-- Any number of runs, each of which starts in a world that satisfies `S`. -/
def SessionsFrom (E : Environment W C A) (S : W → Prop) (P : Program C A α → Prop) : W → W → Prop :=
  Relation.ReflTransGen fun w w' => S w ∧ Session E P w w'

variable {E : Environment W C A} {S : W → Prop} {P : Program C A α → Prop} {I : W → Prop}

/-- **The session rule.**  An invariant that every program keeps at each of its points, from the worlds
that runs start in, holds at each point of every sequence of runs. -/
theorem SessionsFrom.invariant
    (keeps : ∀ p, P p → ∀ w, S w → I w → Safe E I p (fun _ _ => True) w) {w w' : W}
    (h : SessionsFrom E S P w w') (hw : I w) : I w' := by
  induction h with
  | refl => exact hw
  | tail _ hs ih =>
      obtain ⟨start, p, tr, q, hp, hx⟩ := hs
      exact (keeps p hp _ start ih).exec hx

theorem Sessions.invariant (keeps : ∀ p, P p → ∀ w, I w → Safe E I p (fun _ _ => True) w) {w w' : W}
    (h : Sessions E P w w') (hw : I w) : I w' := by
  induction h with
  | refl => exact hw
  | tail _ hs ih =>
      obtain ⟨p, tr, q, hp, hx⟩ := hs
      exact (keeps p hp _ ih).exec hx

end Sessions

end MatterTimeCtl.Effect
