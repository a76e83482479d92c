/-
# MatterTimeCtl.Effect.Obey — what every move of a run obeys.

`Safe` speaks about the worlds a run goes through and `Traces` about completed runs.  `Obeys E J p Q w` speaks
about the moves: every move of every run of `p` from `w`, stopped anywhere, satisfies `J` in the world it is
made in, and a completed run returns a value and a world that satisfy `Q`.  With `J` about the next world this
is a two-state property of every step (`Follows`).
-/
import MatterTimeCtl.Effect.Trace

namespace MatterTimeCtl.Effect

universe u v w x

/-! ## Moves and the worlds they are made in -/

section Obeys

variable {W : Type x} {C : Type u} {A : C → Type v} {α β : Type w} {ε : Type w}

/-- **Every move obeys `J`.** -/
def Obeys (E : Environment W C A) (J : W → Event E → Prop) :
    Program C A α → (α → W → Prop) → W → Prop
  | .done a, Q, w => Q a w
  | .call c next, Q, w => ∀ m, E.admits c w m →
      J w ⟨c, m⟩ ∧ Obeys E J (next (E.answer c w m)) Q (E.next c w m)

variable {E : Environment W C A} {J J' : W → Event E → Prop} {w : W}

@[simp] theorem obeys_done {a : α} {Q : α → W → Prop} : Obeys E J (.done a) Q w ↔ Q a w := Iff.rfl

@[simp] theorem obeys_call {c : C} {next : A c → Program C A α} {Q : α → W → Prop} :
    Obeys E J (.call c next) Q w ↔ ∀ m, E.admits c w m →
      J w ⟨c, m⟩ ∧ Obeys E J (next (E.answer c w m)) Q (E.next c w m) := Iff.rfl

attribute [irreducible] Obeys

theorem Obeys.mono {p : Program C A α} {Q Q' : α → W → Prop} (h : Obeys E J p Q w)
    (hJ : ∀ w' e, J w' e → J' w' e) (hQ : ∀ a w', Q a w' → Q' a w') : Obeys E J' p Q' w := by
  induction p generalizing w with
  | done a => exact obeys_done.mpr (hQ a w (obeys_done.mp h))
  | call c next ih =>
      rw [obeys_call] at h ⊢
      exact fun m hm => ⟨hJ w _ (h m hm).1, ih _ (h m hm).2⟩

theorem obeys_bind {p : Program C A α} {f : α → Program C A β} {Q : β → W → Prop} :
    Obeys E J (p >>= f) Q w ↔ Obeys E J p (fun a w' => Obeys E J (f a) Q w') w := by
  induction p generalizing w with
  | done a => rw [Program.done_bind, obeys_done]
  | call c next ih =>
      rw [Program.call_bind, obeys_call, obeys_call]
      exact forall₂_congr fun m _ => and_congr_right fun _ => ih _

/-- What holds at every point of every run is known where a move is made. -/
theorem Obeys.of_safe {I : W → Prop} {P : C → Prop} {p : Program C A α} {Q : α → W → Prop}
    (h : Safe E I p Q w) (hp : p.Uses P)
    (step : ∀ c w' m, P c → I w' → E.admits c w' m → J w' ⟨c, m⟩) :
    Obeys E J p (fun a w' => I w' ∧ Q a w') w := by
  induction p generalizing w with
  | done a => exact obeys_done.mpr (safe_done.mp h)
  | call c next ih =>
      rw [safe_call] at h
      rw [Program.uses_call] at hp
      exact obeys_call.mpr fun m hm => ⟨step c w m hp.1 h.1 hm, ih _ (h.2 m hm) (hp.2 _)⟩

/-- What is known of the runs besides. -/
theorem Obeys.and_safe {I : W → Prop} {p : Program C A α} {Q Q' : α → W → Prop}
    (h : Obeys E J p Q w) (hs : Safe E I p Q' w) :
    Obeys E J p (fun a w' => Q a w' ∧ I w' ∧ Q' a w') w := by
  induction p generalizing w with
  | done a =>
      rw [obeys_done] at h ⊢
      exact ⟨h, safe_done.mp hs⟩
  | call c next ih =>
      rw [obeys_call] at h ⊢
      rw [safe_call] at hs
      exact fun m hm => ⟨(h m hm).1, ih _ (h m hm).2 (hs.2 m hm)⟩

/-! ### Programs that can fail -/

section Fallible

variable {y : ExceptT ε (Program C A) α} {f : α → ExceptT ε (Program C A) β}

theorem Obeys.run_bind {R : Except ε α → W → Prop} {Q : Except ε β → W → Prop}
    (hy : Obeys E J y.run R w) (ok : ∀ a w', R (.ok a) w' → Obeys E J (f a).run Q w')
    (error : ∀ e w', R (.error e) w' → Q (.error e) w') : Obeys E J (y >>= f).run Q w := by
  rw [Effect.run_bind, obeys_bind]
  refine hy.mono (fun _ _ h => h) fun r w' hr => ?_
  cases r with
  | ok a => exact ok a w' hr
  | error e => exact obeys_done.mpr (error e w' hr)

/-- A first part whose result tells nothing. -/
theorem Obeys.run_then {R : Except ε α → W → Prop} (hy : Obeys E J y.run R w)
    (rest : ∀ a w', R (.ok a) w' → Obeys E J (f a).run (fun _ _ => True) w') :
    Obeys E J (y >>= f).run (fun _ _ => True) w :=
  hy.run_bind rest fun _ _ _ => trivial

end Fallible

/-! ## Steps from world to world -/

/-- **Every step is one that `R` allows.** -/
abbrev Follows (E : Environment W C A) (R : W → W → Prop) :
    Program C A α → (α → W → Prop) → W → Prop :=
  Obeys E fun w e => R w (E.next e.1 w e.2)

end Obeys

end MatterTimeCtl.Effect
