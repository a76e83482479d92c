/-
# MatterTimeCtl.Effect.Reach — what some run does, and which calls runs come to.

`Safe` speaks about all runs.  Its two companions are `Can`, some run completes with a given result, and
`May`, some run comes to a given point; a counterexample is built from their rules, one part of the
program after the other.  A run that comes to a point where a call is next has that call `Pending`, and
`Guarded` says of every pending call that it is made in the right kind of world: it is to `Pending` what
`Safe` is to `May`.
-/
import MatterTimeCtl.Effect.Environment

namespace MatterTimeCtl.Effect

universe u v w x

variable {W : Type x} {C : Type u} {A : C → Type v} {α β : Type w} {ε : Type w}

/-! ## Some run completes -/

/-- Some run of the program from `w` completes with a value and a world that satisfy `Q`. -/
def Can (E : Environment W C A) : Program C A α → (α → W → Prop) → W → Prop
  | .done a, Q, w => Q a w
  | .call c next, Q, w => ∃ m, E.admits c w m ∧ Can E (next (E.answer c w m)) Q (E.next c w m)

section Can

variable {E : Environment W C A} {w : W}

@[simp] theorem can_done {a : α} {Q : α → W → Prop} : Can E (.done a) Q w ↔ Q a w := Iff.rfl

@[simp] theorem can_call {c : C} {next : A c → Program C A α} {Q : α → W → Prop} :
    Can E (.call c next) Q w ↔
      ∃ m, E.admits c w m ∧ Can E (next (E.answer c w m)) Q (E.next c w m) := Iff.rfl

attribute [irreducible] Can

theorem Can.exec {p : Program C A α} {Q : α → W → Prop} (h : Can E p Q w) :
    ∃ tr a w', Exec E p w tr (.done a) w' ∧ Q a w' := by
  induction p generalizing w with
  | done a => exact ⟨[], a, w, .stop _ _, can_done.mp h⟩
  | call c next ih =>
      obtain ⟨m, hm, h⟩ := can_call.mp h
      obtain ⟨tr, a, w', hx, hq⟩ := ih _ h
      exact ⟨⟨c, m⟩ :: tr, a, w', .call hm hx, hq⟩

theorem Can.mono {p : Program C A α} {Q R : α → W → Prop} (h : Can E p Q w)
    (hQ : ∀ a w', Q a w' → R a w') : Can E p R w := by
  induction p generalizing w with
  | done a => exact can_done.mpr (hQ a w (can_done.mp h))
  | call c next ih =>
      obtain ⟨m, hm, h⟩ := can_call.mp h
      exact can_call.mpr ⟨m, hm, ih _ h⟩

theorem Can.bind {p : Program C A α} {f : α → Program C A β} {Q : β → W → Prop}
    (h : Can E p (fun a w' => Can E (f a) Q w') w) : Can E (p >>= f) Q w := by
  induction p generalizing w with
  | done a =>
      rw [can_done] at h
      exact h
  | call c next ih =>
      obtain ⟨m, hm, h⟩ := can_call.mp h
      exact can_call.mpr ⟨m, hm, ih _ h⟩

theorem Can.of_bind {p : Program C A α} {f : α → Program C A β} {Q : β → W → Prop}
    (h : Can E (p >>= f) Q w) : Can E p (fun a w' => Can E (f a) Q w') w := by
  induction p generalizing w with
  | done a => exact can_done.mpr h
  | call c next ih =>
      obtain ⟨m, hm, h⟩ := can_call.mp h
      exact can_call.mpr ⟨m, hm, ih _ h⟩

/-- A run that completes. -/
theorem Exec.can {p : Program C A α} {Q : α → W → Prop} {tr : List (Event E)} {a : α} {w' : W}
    (h : Exec E p w tr (.done a) w') (hQ : Q a w') : Can E p Q w := by
  induction p generalizing w tr with
  | done b =>
      obtain ⟨rfl, hq, rfl⟩ := h.of_done
      cases hq
      exact can_done.mpr hQ
  | call c next ih =>
      cases h with
      | @call _ _ _ m _ _ _ admitted rest => exact can_call.mpr ⟨m, admitted, ih _ rest⟩

/-- A program that is safe completes, if it is never stuck on the way. -/
theorem Safe.can {I : W → Prop} {U : C → Prop} {p : Program C A α} {Q : α → W → Prop}
    (h : Safe E I p Q w) (hp : p.Uses U) (live : ∀ c w, U c → I w → ∃ m, E.admits c w m) :
    Can E p Q w := by
  induction p generalizing w with
  | done a => exact can_done.mpr (safe_done.mp h).2
  | call c next ih =>
      rw [Program.uses_call] at hp
      rw [safe_call] at h
      obtain ⟨m, hm⟩ := live c w hp.1 h.1
      exact can_call.mpr ⟨m, hm, ih _ (h.2 m hm) (hp.2 _)⟩

/-- One part after the other, each with a value. -/
theorem Can.run_bind {y : ExceptT ε (Program C A) α} {f : α → ExceptT ε (Program C A) β}
    {Q : Except ε β → W → Prop}
    (h : Can E y.run (fun r w' => ∃ a, r = .ok a ∧ Can E (f a).run Q w') w) :
    Can E (y >>= f).run Q w := by
  rw [Effect.run_bind]
  refine Can.bind (h.mono ?_)
  rintro r w' ⟨a, rfl, hf⟩
  exact hf

end Can

/-! ## Some run comes to a point -/

/-- Some run of `p` from `w` comes to the point where `q` is left to run, in a world that satisfies
`S`. -/
def Comes (E : Environment W C A) (p : Program C A α) (w : W) (q : Program C A α) (S : W → Prop) :
    Prop :=
  ∃ tr w', Exec E p w tr q w' ∧ S w'

section Comes

variable {E : Environment W C A} {w : W} {S : W → Prop}

theorem Comes.here (p : Program C A α) (h : S w) : Comes E p w p S := ⟨[], w, .stop p w, h⟩

theorem Can.run_comes {y : ExceptT ε (Program C A) α} {f : α → ExceptT ε (Program C A) β}
    {q : Program C A (Except ε β)}
    (h : Can E y.run (fun r w' => ∃ a, r = .ok a ∧ Comes E (f a).run w' q S) w) :
    Comes E (y >>= f).run w q S := by
  rw [Effect.run_bind]
  obtain ⟨tr, r, w₁, hx, a, rfl, tr', w', hx', hS⟩ := h.exec
  exact ⟨tr ++ tr', w', (hx.bind _).trans hx', hS⟩

end Comes

/-- Some run of the program from `w` comes to a point where the world satisfies `R`. -/
def May (E : Environment W C A) (p : Program C A α) (R : W → Prop) (w : W) : Prop :=
  ∃ tr q w', Exec E p w tr q w' ∧ R w'

section May

variable {E : Environment W C A} {w : W} {R : W → Prop}

theorem May.here (p : Program C A α) (h : R w) : May E p R w := ⟨[], p, w, .stop p w, h⟩

theorem Can.may {p : Program C A α} (h : Can E p (fun _ => R) w) : May E p R w := by
  obtain ⟨tr, a, w', hx, hR⟩ := h.exec
  exact ⟨tr, _, w', hx, hR⟩

theorem May.call {c : C} {next : A c → Program C A α} {m : E.Move c} (hm : E.admits c w m)
    (h : May E (next (E.answer c w m)) R (E.next c w m)) : May E (.call c next) R w := by
  obtain ⟨tr, q, w', hx, hR⟩ := h
  exact ⟨⟨c, m⟩ :: tr, q, w', .call hm hx, hR⟩

theorem May.bind_left {p : Program C A α} (h : May E p R w) (f : α → Program C A β) :
    May E (p >>= f) R w := by
  obtain ⟨tr, q, w', hx, hR⟩ := h
  exact ⟨tr, q >>= f, w', hx.bind f, hR⟩

theorem Can.bind_may {p : Program C A α} {f : α → Program C A β}
    (h : Can E p (fun a w' => May E (f a) R w') w) : May E (p >>= f) R w := by
  obtain ⟨tr, a, w₁, hx, tr', q, w', hx', hR⟩ := h.exec
  exact ⟨tr ++ tr', q, w', (hx.bind f).trans hx', hR⟩

variable {y : ExceptT ε (Program C A) α} {f : α → ExceptT ε (Program C A) β}

theorem May.run_left (h : May E y.run R w) : May E (y >>= f).run R w := by
  rw [Effect.run_bind]
  exact h.bind_left _

theorem Can.run_may (h : Can E y.run (fun r w' => ∃ a, r = .ok a ∧ May E (f a).run R w') w) :
    May E (y >>= f).run R w := by
  rw [Effect.run_bind]
  refine Can.bind_may (h.mono ?_)
  rintro r w' ⟨a, rfl, hf⟩
  exact hf

/-- A session that goes on to a given point. -/
theorem May.session {P : Program C A α → Prop} {p : Program C A α} (hp : P p) (h : May E p R w) :
    ∃ w', Session E P w w' ∧ R w' := by
  obtain ⟨tr, q, w', hx, hR⟩ := h
  exact ⟨w', ⟨p, tr, q, hp, hx⟩, hR⟩

end May

/-! ## The calls that runs come to -/

/-- Some run of the program from `w` comes to the call `c` in the world `w'`. -/
def Pending (E : Environment W C A) (p : Program C A α) (w : W) (c : C) (w' : W) : Prop :=
  ∃ tr next, Exec E p w tr (.call c next) w'

/-- Every call that a run of the program from `w` comes to is made in a world that suits it. -/
def Guarded (E : Environment W C A) (G : C → W → Prop) (p : Program C A α) (w : W) : Prop :=
  ∀ c w', Pending E p w c w' → G c w'

section Guarded

variable {E : Environment W C A} {G : C → W → Prop} {w w' : W} {c : C}

theorem Pending.here (next : A c → Program C A α) : Pending E (.call c next) w c w :=
  ⟨[], next, .stop _ _⟩

/-- A run that comes to a program that starts with a call has that call pending. -/
theorem Comes.pending {p : Program C A α} {next : A c → Program C A α} {S : W → Prop}
    (h : Comes E p w (.call c next) S) : ∃ w', Pending E p w c w' ∧ S w' := by
  obtain ⟨tr, w', hx, hS⟩ := h
  exact ⟨w', ⟨tr, next, hx⟩, hS⟩

theorem guarded_done (a : α) : Guarded E G (.done a : Program C A α) w := by
  rintro c w' ⟨tr, next, hx⟩
  obtain ⟨-, h, -⟩ := hx.of_done
  cases h

theorem guarded_call {next : A c → Program C A α} (here : G c w)
    (rest : ∀ m, E.admits c w m → Guarded E G (next (E.answer c w m)) (E.next c w m)) :
    Guarded E G (.call c next) w := by
  rintro c' w' ⟨tr, next', hx⟩
  cases hx with
  | stop => exact here
  | call admitted hx => exact rest _ admitted c' w' ⟨_, next', hx⟩

/-- A part whose calls all suit the worlds it goes through. -/
theorem Guarded.of_safe {I : W → Prop} {U : C → Prop} {p : Program C A α} {Q : α → W → Prop}
    (h : Safe E I p Q w) (hp : p.Uses U) (suits : ∀ c w', U c → I w' → G c w') :
    Guarded E G p w := by
  induction p generalizing w with
  | done a => exact guarded_done a
  | call c next ih =>
      rw [Program.uses_call] at hp
      rw [safe_call] at h
      exact guarded_call (suits c w hp.1 h.1) fun m hm => ih _ (h.2 m hm) (hp.2 _)

/-- A part whose calls suit every world. -/
theorem Guarded.of_uses {U : C → Prop} {p : Program C A α} (hp : p.Uses U)
    (suits : ∀ c w', U c → G c w') : Guarded E G p w := by
  induction p generalizing w with
  | done a => exact guarded_done a
  | call c next ih =>
      rw [Program.uses_call] at hp
      exact guarded_call (suits c w hp.1) fun m _ => ih _ (hp.2 _)

theorem Guarded.bind {I : W → Prop} {p : Program C A α} {f : α → Program C A β} {Q : α → W → Prop}
    (guarded : Guarded E G p w) (h : Safe E I p Q w)
    (rest : ∀ a w', I w' → Q a w' → Guarded E G (f a) w') : Guarded E G (p >>= f) w := by
  induction p generalizing w with
  | done a =>
      rw [safe_done] at h
      exact rest a w h.1 h.2
  | call c next ih =>
      rw [safe_call] at h
      refine guarded_call (guarded c w (.here next)) fun m hm => ih _ (fun c' w' hp => ?_) (h.2 m hm)
      obtain ⟨tr, next', hx⟩ := hp
      exact guarded c' w' ⟨_, next', .call hm hx⟩

theorem Guarded.run_bind {I : W → Prop} {y : ExceptT ε (Program C A) α}
    {f : α → ExceptT ε (Program C A) β} {Q : Except ε α → W → Prop}
    (guarded : Guarded E G y.run w) (h : Safe E I y.run Q w)
    (rest : ∀ a w', I w' → Q (.ok a) w' → Guarded E G (f a).run w') :
    Guarded E G (y >>= f).run w := by
  rw [Effect.run_bind]
  refine guarded.bind h fun r w' hI hQ => ?_
  cases r with
  | ok a => exact rest a w' hI hQ
  | error e => exact guarded_done _

/-- The same where the second part suits every world. -/
theorem Guarded.run_then {y : ExceptT ε (Program C A) α} {f : α → ExceptT ε (Program C A) β}
    (guarded : Guarded E G y.run w) (rest : ∀ a w', Guarded E G (f a).run w') :
    Guarded E G (y >>= f).run w := by
  have anything : Safe E (fun _ => True) y.run (fun _ _ => True) w :=
    (safe_iff_exec.mpr fun _ _ _ _ => ⟨trivial, fun _ _ => trivial⟩)
  exact guarded.run_bind anything fun a w' _ _ => rest a w'

end Guarded

end MatterTimeCtl.Effect
