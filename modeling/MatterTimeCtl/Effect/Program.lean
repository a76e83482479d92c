/-
# MatterTimeCtl.Effect.Program — programs as trees of calls to their environment.

A program that talks to an environment (a file system, a clock, a peer on the wire) is modelled by
the tree of the calls it makes.  A node carries one call `c` and, for every answer the environment
can give to `c`, the rest of the program; a leaf carries the value the program returns.  The tree
says nothing about which answers are possible or what a call does to the world: that is the business
of `MatterTimeCtl.Effect.Environment`, and one program can be run against several environments.

The tree is a monad, so a program is written in `do` notation and reads like the code it models.
Failure is layered on top by `ExceptT`; the lemmas of the last section push `ExceptT.run` through
the monadic operations, so that proofs about such programs only ever see the tree.
-/
import Mathlib.Logic.Function.Basic

namespace MatterTimeCtl.Effect

universe u v w

/-! ## The tree -/

/-- A program over the call alphabet `C`, whose call `c` is answered by a value of `A c`, returning a
value of `α`. -/
inductive Program (C : Type u) (A : C → Type v) (α : Type w) where
  | done (value : α) : Program C A α
  | call (c : C) (next : A c → Program C A α) : Program C A α

namespace Program

variable {C : Type u} {A : C → Type v} {α β γ : Type w}

/-- Sequencing: graft `f a` onto every leaf `a`. -/
def bind : Program C A α → (α → Program C A β) → Program C A β
  | .done a, f => f a
  | .call c next, f => .call c fun a => (next a).bind f

instance : Monad (Program C A) where
  pure := .done
  bind := bind

@[simp] theorem pure_eq (a : α) : (pure a : Program C A α) = .done a := rfl

@[simp] theorem done_bind (a : α) (f : α → Program C A β) : (Program.done a >>= f) = f a := rfl

@[simp] theorem call_bind (c : C) (next : A c → Program C A α) (f : α → Program C A β) :
    (Program.call c next >>= f) = .call c fun a => next a >>= f := rfl

theorem bind_done (p : Program C A α) : (p >>= Program.done) = p := by
  induction p with
  | done a => rfl
  | call c next ih => simp only [call_bind, ih]

theorem bind_assoc (p : Program C A α) (f : α → Program C A β) (g : β → Program C A γ) :
    ((p >>= f) >>= g) = p >>= fun a => f a >>= g := by
  induction p with
  | done a => rfl
  | call c next ih => simp only [call_bind, ih]

instance : LawfulMonad (Program C A) :=
  LawfulMonad.mk' (Program C A) (fun p => bind_done p) (fun _ _ => rfl) bind_assoc

/-! ## What a program may call -/

/-- Every call `p` can reach, whatever it is answered, satisfies `P`. -/
def Uses (P : C → Prop) : Program C A α → Prop
  | .done _ => True
  | .call c next => P c ∧ ∀ a, (next a).Uses P

@[simp] theorem uses_done (P : C → Prop) (a : α) : (Program.done a : Program C A α).Uses P := trivial

@[simp] theorem uses_call {P : C → Prop} {c : C} {next : A c → Program C A α} :
    (Program.call c next).Uses P ↔ P c ∧ ∀ a, (next a).Uses P := Iff.rfl

-- from here on a footprint is only taken apart by the lemmas about it
attribute [irreducible] Uses

theorem Uses.bind {P : C → Prop} {p : Program C A α} {f : α → Program C A β}
    (hp : p.Uses P) (hf : ∀ a, (f a).Uses P) : (p >>= f).Uses P := by
  induction p with
  | done a => exact hf a
  | call c next ih =>
      rw [uses_call] at hp
      rw [call_bind, uses_call]
      exact ⟨hp.1, fun a => ih a (hp.2 a)⟩

/-- What a program calls before it goes on, it calls. -/
theorem Uses.left {P : C → Prop} {p : Program C A α} {f : α → Program C A β}
    (h : (p >>= f).Uses P) : p.Uses P := by
  induction p with
  | done a => exact uses_done P a
  | call c next ih =>
      rw [call_bind, uses_call] at h
      exact uses_call.mpr ⟨h.1, fun a => ih a (h.2 a)⟩

theorem Uses.mono {P Q : C → Prop} (hPQ : ∀ c, P c → Q c) {p : Program C A α} (hp : p.Uses P) :
    p.Uses Q := by
  induction p with
  | done a => exact uses_done Q a
  | call c next ih =>
      rw [uses_call] at hp ⊢
      exact ⟨hPQ c hp.1, fun a => ih a (hp.2 a)⟩

/-! ## What a program may return -/

/-- Every value `p` can return, whatever its calls are answered, satisfies `R`. -/
def Returns (R : α → Prop) : Program C A α → Prop
  | .done a => R a
  | .call _ next => ∀ a, (next a).Returns R

@[simp] theorem returns_done {R : α → Prop} {a : α} :
    (Program.done a : Program C A α).Returns R ↔ R a := Iff.rfl

@[simp] theorem returns_call {R : α → Prop} {c : C} {next : A c → Program C A α} :
    (Program.call c next).Returns R ↔ ∀ a, (next a).Returns R := Iff.rfl

attribute [irreducible] Returns

theorem Returns.mono {R S : α → Prop} (hRS : ∀ a, R a → S a) {p : Program C A α}
    (hp : p.Returns R) : p.Returns S := by
  induction p with
  | done a => exact returns_done.mpr (hRS a (returns_done.mp hp))
  | call c next ih =>
      rw [returns_call] at hp ⊢
      exact fun a => ih a (hp a)

theorem Returns.and {R S : α → Prop} {p : Program C A α} (hR : p.Returns R) (hS : p.Returns S) :
    p.Returns fun a => R a ∧ S a := by
  induction p with
  | done a => exact returns_done.mpr ⟨returns_done.mp hR, returns_done.mp hS⟩
  | call c next ih =>
      rw [returns_call] at hR hS ⊢
      exact fun a => ih a (hR a) (hS a)

theorem returns_trivial (p : Program C A α) : p.Returns fun _ => True := by
  induction p with
  | done a => exact returns_done.mpr trivial
  | call c next ih => exact returns_call.mpr ih

/-- Some way of answering the calls of the program makes it return `b`. -/
def Yields : Program C A α → α → Prop
  | .done a, b => a = b
  | .call _ next, b => ∃ answer, (next answer).Yields b

/-- A program returns no more than what it yields. -/
theorem returns_yields (p : Program C A α) : p.Returns p.Yields := by
  induction p with
  | done a => exact returns_done.mpr rfl
  | call c next ih => exact returns_call.mpr fun answer => (ih answer).mono fun a h => ⟨answer, h⟩

/-- What a program yields, it returns. -/
theorem Returns.of_yields {R : α → Prop} {p : Program C A α} {a : α} (hp : p.Returns R)
    (h : p.Yields a) : R a := by
  induction p with
  | done b =>
      obtain rfl : b = a := h
      exact returns_done.mp hp
  | call c next ih =>
      obtain ⟨answer, h⟩ := h
      exact ih answer (returns_call.mp hp answer) h

theorem Returns.bind {R : α → Prop} {S : β → Prop} {p : Program C A α} {f : α → Program C A β}
    (hp : p.Returns R) (hf : ∀ a, R a → (f a).Returns S) : (p >>= f).Returns S := by
  induction p with
  | done a => exact hf a (returns_done.mp hp)
  | call c next ih =>
      rw [returns_call] at hp
      rw [call_bind, returns_call]
      exact fun a => ih a (hp a)

end Program

/-- The program that makes the one call `c` and returns its answer. -/
def perform {C : Type u} {A : C → Type v} (c : C) : Program C A (A c) := .call c .done

/-! ## Programs that can fail -/

section Fallible

variable {C : Type u} {A : C → Type v} {ε : Type w} {α β : Type w}

/-- How a fallible program goes on: with `f` after a value, not at all after an error. -/
def continueWith (f : α → Program C A (Except ε β)) : Except ε α → Program C A (Except ε β)
  | .ok a => f a
  | .error e => .done (.error e)

/-- An error is not a value. -/
theorem error_ne_ok {P : Prop} {e : ε} {a : α} (h : (.error e : Except ε α) = .ok a) : P := by
  cases h

@[simp] theorem continueWith_ok (f : α → Program C A (Except ε β)) (a : α) :
    continueWith f (.ok a) = f a := rfl

@[simp] theorem continueWith_error (f : α → Program C A (Except ε β)) (e : ε) :
    continueWith f (.error e : Except ε α) = .done (.error e) := rfl

theorem run_bind (x : ExceptT ε (Program C A) α) (f : α → ExceptT ε (Program C A) β) :
    (x >>= f).run = x.run >>= continueWith fun a => (f a).run := by
  rw [ExceptT.run_bind]
  congr 1

theorem run_pure (a : α) : (pure a : ExceptT ε (Program C A) α).run = .done (.ok a) := rfl

/-! ### Footprints of fallible programs -/

theorem uses_continueWith {P : C → Prop} {f : α → Program C A (Except ε β)}
    (hf : ∀ a, (f a).Uses P) (r : Except ε α) : (continueWith f r).Uses P := by
  cases r with
  | ok a => exact hf a
  | error e => exact Program.uses_done P _

theorem uses_run_pure {P : C → Prop} (a : α) :
    (pure a : ExceptT ε (Program C A) α).run.Uses P := Program.uses_done P _

theorem uses_run_throw {P : C → Prop} (e : ε) :
    (throw e : ExceptT ε (Program C A) α).run.Uses P := Program.uses_done P _

theorem uses_run_bind {P : C → Prop} {x : ExceptT ε (Program C A) α}
    {f : α → ExceptT ε (Program C A) β} (hx : x.run.Uses P) (hf : ∀ a, (f a).run.Uses P) :
    (x >>= f).run.Uses P := by
  rw [run_bind]
  exact hx.bind (uses_continueWith hf)

/-- A fallible program returns what its parts return. -/
theorem returns_run_bind {R : Except ε β → Prop} {x : ExceptT ε (Program C A) α}
    {f : α → ExceptT ε (Program C A) β} (hx : x.run.Returns fun r => ∀ e, r = .error e → R (.error e))
    (hf : ∀ a, (f a).run.Returns R) : (x >>= f).run.Returns R := by
  rw [run_bind]
  refine hx.bind fun r hr => ?_
  cases r with
  | ok a => exact hf a
  | error e => exact Program.returns_done.mpr (hr e rfl)

theorem uses_run_map {P : C → Prop} {x : ExceptT ε (Program C A) α} (f : α → β)
    (hx : x.run.Uses P) : (f <$> x).run.Uses P := by
  rw [← bind_pure_comp]
  exact uses_run_bind hx fun a => uses_run_pure (f a)

end Fallible

end MatterTimeCtl.Effect
