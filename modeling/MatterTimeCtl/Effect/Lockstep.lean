/-
# MatterTimeCtl.Effect.Lockstep — one program in two worlds.

`Lockstep E p R w w'` says that `p` cannot tell `w` from `w'`: every move that is admitted in `w` is
admitted in `w'` and answered there alike, so that the two runs make the same calls to the end, where
`R` relates what they leave behind.  It is computed by recursion on the tree; what can come of a run in one
world then can come of the run in the other (`Lockstep.can`).
-/
import MatterTimeCtl.Effect.Reach

namespace MatterTimeCtl.Effect

universe u v w x

variable {W : Type x} {C : Type u} {A : C → Type v} {α β : Type w} {ε : Type w}

/-- **Two runs in step.**  The program is answered alike in both worlds, whatever the moves. -/
def Lockstep (E : Environment W C A) : Program C A α → (α → W → W → Prop) → W → W → Prop
  | .done a, R, w, w' => R a w w'
  | .call c next, R, w, w' => ∀ m, E.admits c w m → E.admits c w' m ∧
      E.answer c w' m = E.answer c w m ∧
      Lockstep E (next (E.answer c w m)) R (E.next c w m) (E.next c w' m)

variable {E : Environment W C A} {w w' : W}

@[simp] theorem lockstep_done {a : α} {R : α → W → W → Prop} :
    Lockstep E (.done a) R w w' ↔ R a w w' := Iff.rfl

@[simp] theorem lockstep_call {c : C} {next : A c → Program C A α} {R : α → W → W → Prop} :
    Lockstep E (.call c next) R w w' ↔ ∀ m, E.admits c w m → E.admits c w' m ∧
      E.answer c w' m = E.answer c w m ∧
      Lockstep E (next (E.answer c w m)) R (E.next c w m) (E.next c w' m) := Iff.rfl

attribute [irreducible] Lockstep

/-- What a run can return in one world, a run can return in the other. -/
theorem Lockstep.can {p : Program C A α} {R : α → W → W → Prop} {Q : α → W → Prop}
    (h : Lockstep E p R w w') (can : Can E p Q w) :
    Can E p (fun a v' => ∃ v, Q a v ∧ R a v v') w' := by
  induction p generalizing w w' with
  | done a => exact can_done.mpr ⟨w, can_done.mp can, lockstep_done.mp h⟩
  | call c next ih =>
      obtain ⟨m, hm, hrest⟩ := can_call.mp can
      obtain ⟨hm', answered, hnext⟩ := lockstep_call.mp h m hm
      refine can_call.mpr ⟨m, hm', ?_⟩
      rw [answered]
      exact ih _ hnext hrest

theorem Lockstep.mono {p : Program C A α} {R S : α → W → W → Prop} (h : Lockstep E p R w w')
    (hRS : ∀ a v v', R a v v' → S a v v') : Lockstep E p S w w' := by
  induction p generalizing w w' with
  | done a => exact lockstep_done.mpr (hRS a w w' (lockstep_done.mp h))
  | call c next ih =>
      refine lockstep_call.mpr fun m hm => ?_
      obtain ⟨hm', answered, hnext⟩ := lockstep_call.mp h m hm
      exact ⟨hm', answered, ih _ hnext⟩

theorem Lockstep.bind {p : Program C A α} {f : α → Program C A β} {R : α → W → W → Prop}
    {S : β → W → W → Prop} (h : Lockstep E p R w w')
    (hf : ∀ a v v', R a v v' → Lockstep E (f a) S v v') : Lockstep E (p >>= f) S w w' := by
  induction p generalizing w w' with
  | done a => exact hf a w w' (lockstep_done.mp h)
  | call c next ih =>
      rw [Program.call_bind]
      refine lockstep_call.mpr fun m hm => ?_
      obtain ⟨hm', answered, hnext⟩ := lockstep_call.mp h m hm
      exact ⟨hm', answered, ih _ hnext⟩

/-- Fallible parts, one after the other. -/
theorem Lockstep.run_bind {x : ExceptT ε (Program C A) α} {f : α → ExceptT ε (Program C A) β}
    {R : Except ε α → W → W → Prop} {S : Except ε β → W → W → Prop} (h : Lockstep E x.run R w w')
    (ok : ∀ a v v', R (.ok a) v v' → Lockstep E (f a).run S v v')
    (error : ∀ e v v', R (.error e) v v' → S (.error e) v v') :
    Lockstep E (x >>= f).run S w w' := by
  rw [Effect.run_bind]
  refine h.bind fun r v v' hr => ?_
  cases r with
  | ok a => exact ok a v v' hr
  | error e => exact lockstep_done.mpr (error e v v' hr)

/-- A relation between worlds that no permitted call can break or see through. -/
theorem Lockstep.of_uses {P : C → Prop} {R : W → W → Prop} {p : Program C A α} (hp : p.Uses P)
    (step : ∀ c v v' m, P c → R v v' → E.admits c v m → E.admits c v' m ∧
      E.answer c v' m = E.answer c v m ∧ R (E.next c v m) (E.next c v' m))
    (h : R w w') : Lockstep E p (fun _ => R) w w' := by
  induction p generalizing w w' with
  | done a => exact lockstep_done.mpr h
  | call c next ih =>
      rw [Program.uses_call] at hp
      refine lockstep_call.mpr fun m hm => ?_
      obtain ⟨hm', answered, hnext⟩ := step c w w' m hp.1 h hm
      exact ⟨hm', answered, ih _ (hp.2 _) hnext⟩

end MatterTimeCtl.Effect
