/-
# MatterTimeCtl.Effect.Script — one run in full.

A `Script` fixes the environment's move on every call, so that a program has exactly one run under it.
`play` computes the value and the world that this run ends in, and `exec` says that it is a run; what
`Safe` says of all runs therefore holds of the played one.  Scripts are what witnesses and
counterexamples are made of.
-/
import MatterTimeCtl.Effect.Environment

namespace MatterTimeCtl.Effect

universe u v w x

variable {W : Type x} {C : Type u} {A : C → Type v} {α β : Type w} {ε : Type w}

/-- One move for every call, in every world. -/
structure Script (E : Environment W C A) where
  move : (c : C) → W → E.Move c
  admitted : ∀ c w, E.admits c w (move c w)

namespace Script

variable {E : Environment W C A}

/-- The value and the world that a program ends with. -/
def play (S : Script E) : Program C A α → W → α × W
  | .done a, w => (a, w)
  | .call c next, w => S.play (next (E.answer c w (S.move c w))) (E.next c w (S.move c w))

/-- The moves on the way. -/
def trace (S : Script E) : Program C A α → W → List (Event E)
  | .done _, _ => []
  | .call c next, w =>
    ⟨c, S.move c w⟩ :: S.trace (next (E.answer c w (S.move c w))) (E.next c w (S.move c w))

variable (S : Script E)

@[simp] theorem play_done (a : α) (w : W) : S.play (.done a : Program C A α) w = (a, w) := rfl

theorem exec (p : Program C A α) (w : W) :
    Exec E p w (S.trace p w) (.done (S.play p w).1) (S.play p w).2 := by
  induction p generalizing w with
  | done a => exact .stop _ _
  | call c next ih => exact .call (S.admitted c w) (ih _ _)

theorem play_bind (p : Program C A α) (f : α → Program C A β) (w : W) :
    S.play (p >>= f) w = S.play (f (S.play p w).1) (S.play p w).2 := by
  induction p generalizing w with
  | done a => rfl
  | call c next ih => exact ih _ _

/-- A first part that ends with a value. -/
theorem play_run_bind {y : ExceptT ε (Program C A) α} {f : α → ExceptT ε (Program C A) β} {w : W}
    {a : α} (h : (S.play y.run w).1 = .ok a) :
    S.play (y >>= f).run w = S.play (f a).run (S.play y.run w).2 := by
  rw [Effect.run_bind, play_bind, h, continueWith_ok]

/-- The same script where only some moves are admitted. -/
def restrict {P : (c : C) → W → E.Move c → Prop} (h : ∀ c w, P c w (S.move c w)) :
    Script (E.restrict P) where
  move := S.move
  admitted c w := ⟨S.admitted c w, h c w⟩

/-- Every move of the played run is one of the script's. -/
theorem moves (p : Program C A α) (w : W) : ∀ e ∈ S.trace p w, ∃ w', e.2 = S.move e.1 w' := by
  induction p generalizing w with
  | done a => exact List.forall_mem_nil _
  | call c next ih => exact List.forall_mem_cons.mpr ⟨⟨w, rfl⟩, ih _ _⟩

/-- The same script with other moves where `other` has them. -/
def override (other : (c : C) → W → Option (E.Move c))
    (h : ∀ c w m, other c w = some m → E.admits c w m) : Script E where
  move c w := (other c w).getD (S.move c w)
  admitted c w := by
    cases hc : other c w with
    | none => exact S.admitted c w
    | some m => exact h c w m hc

theorem play_restrict {P : (c : C) → W → E.Move c → Prop} (h : ∀ c w, P c w (S.move c w))
    (p : Program C A α) (w : W) : (S.restrict h).play p w = S.play p w := by
  induction p generalizing w with
  | done a => rfl
  | call c next ih => exact ih _ _

/-- The played run, where only such moves are admitted as the script makes on the calls of the program. -/
theorem exec_narrow {P : (c : C) → E.Move c → Prop} {U : C → Prop} {p : Program C A α} (hp : p.Uses U)
    (h : ∀ c w, U c → P c (S.move c w)) (w : W) :
    Exec (E.restrict fun c _ m => P c m) p w (S.trace p w) (.done (S.play p w).1) (S.play p w).2 := by
  induction p generalizing w with
  | done a => exact .stop _ _
  | call c next ih =>
      rw [Program.uses_call] at hp
      exact .call ⟨S.admitted c w, h c w hp.1⟩ (ih _ (hp.2 _) _)

end Script

variable {E : Environment W C A} {I : W → Prop} {p : Program C A α} {Q : α → W → Prop} {w : W}

/-- What holds of all runs holds of the played one. -/
theorem Safe.play (h : Safe E I p Q w) (S : Script E) : Q (S.play p w).1 (S.play p w).2 :=
  h.result (S.exec p w)

/-- The played run as a session. -/
theorem Script.session (S : Script E) {P : Program C A α → Prop} (hp : P p) :
    Session E P w (S.play p w).2 := ⟨p, _, _, hp, S.exec p w⟩

end MatterTimeCtl.Effect
