/-
# MatterTimeCtl.Effect.Trace — completed runs, with the moves they made.

`Safe` forgets what was called on the way.  `Traces E p Q w` keeps it: every completed run of `p` from `w`
returns a value, has made a list of moves, and ends in a world that together satisfy `Q`.  The list of a
sequence of parts is the concatenation of their lists, so a predicate on moves that splits over `++` is
proved part by part.  What `Safe` says of the value and the world is taken over by `Traces.and_safe`, and
what a footprint says of the calls by `Traces.of_uses`.
-/
import MatterTimeCtl.Effect.Environment

namespace MatterTimeCtl.Effect

universe u v w x

variable {W : Type x} {C : Type u} {A : C → Type v} {α β : Type w} {ε : Type w}

/-- **Completed runs with their moves.** -/
def Traces (E : Environment W C A) : Program C A α → (α → List (Event E) → W → Prop) → W → Prop
  | .done a, Q, w => Q a [] w
  | .call c next, Q, w => ∀ m, E.admits c w m →
      Traces E (next (E.answer c w m)) (fun a tr w' => Q a (⟨c, m⟩ :: tr) w') (E.next c w m)

variable {E : Environment W C A} {w : W}

@[simp] theorem traces_done {a : α} {Q : α → List (Event E) → W → Prop} :
    Traces E (.done a) Q w ↔ Q a [] w := Iff.rfl

@[simp] theorem traces_call {c : C} {next : A c → Program C A α} {Q : α → List (Event E) → W → Prop} :
    Traces E (.call c next) Q w ↔ ∀ m, E.admits c w m →
      Traces E (next (E.answer c w m)) (fun a tr w' => Q a (⟨c, m⟩ :: tr) w') (E.next c w m) := Iff.rfl

attribute [irreducible] Traces

theorem Traces.mono {p : Program C A α} {Q R : α → List (Event E) → W → Prop} (h : Traces E p Q w)
    (hQ : ∀ a tr w', Q a tr w' → R a tr w') : Traces E p R w := by
  induction p generalizing w Q R with
  | done a => exact traces_done.mpr (hQ _ _ _ (traces_done.mp h))
  | call c next ih =>
      rw [traces_call] at h ⊢
      intro m hm
      exact ih _ (h m hm) fun a tr w' hq => hQ a _ w' hq

/-- The judgement says what it is meant to say about runs. -/
theorem Traces.result {p : Program C A α} {Q : α → List (Event E) → W → Prop} {w' : W}
    {tr : List (Event E)} {a : α} (h : Traces E p Q w) (hx : Exec E p w tr (.done a) w') : Q a tr w' := by
  induction p generalizing w Q tr with
  | done b =>
      obtain ⟨rfl, hq, rfl⟩ := hx.of_done
      cases hq
      exact traces_done.mp h
  | call c next ih =>
      rw [traces_call] at h
      cases hx with
      | @call _ _ _ m _ _ _ admitted rest =>
          exact ih _ (Q := fun a tr w' => Q a (⟨c, m⟩ :: tr) w') (h m admitted) rest

theorem traces_of_exec {p : Program C A α} {Q : α → List (Event E) → W → Prop}
    (h : ∀ tr a w', Exec E p w tr (.done a) w' → Q a tr w') : Traces E p Q w := by
  induction p generalizing w Q with
  | done a => exact traces_done.mpr (h [] a w (.stop _ _))
  | call c next ih =>
      exact traces_call.mpr fun m hm => ih _ fun tr a w' hx => h _ a w' (.call hm hx)

theorem traces_bind {p : Program C A α} {f : α → Program C A β} {Q : β → List (Event E) → W → Prop} :
    Traces E (p >>= f) Q w ↔
      Traces E p (fun a tr w' => Traces E (f a) (fun b tr' w'' => Q b (tr ++ tr') w'') w') w := by
  induction p generalizing w Q with
  | done a =>
      rw [Program.done_bind, traces_done]
      simp only [List.nil_append]
  | call c next ih =>
      rw [Program.call_bind, traces_call, traces_call]
      refine forall₂_congr fun m _ => ?_
      rw [ih]
      simp only [List.cons_append]

/-- Every program does something. -/
theorem traces_trivial (p : Program C A α) (w : W) : Traces E p (fun _ _ _ => True) w := by
  induction p generalizing w with
  | done a => exact traces_done.mpr trivial
  | call c next ih => exact traces_call.mpr fun m _ => ih _ _

theorem Traces.and_safe {I : W → Prop} {p : Program C A α} {Q : α → List (Event E) → W → Prop}
    {R : α → W → Prop} (h : Traces E p Q w) (hs : Safe E I p R w) :
    Traces E p (fun a tr w' => Q a tr w' ∧ R a w') w := by
  induction p generalizing w Q with
  | done a =>
      rw [traces_done] at h ⊢
      exact ⟨h, (safe_done.mp hs).2⟩
  | call c next ih =>
      rw [traces_call] at h ⊢
      rw [safe_call] at hs
      intro m hm
      exact ih _ (h m hm) (hs.2 m hm)

/-- What `Safe` says, of completed runs. -/
theorem Traces.of_safe {I : W → Prop} {p : Program C A α} {R : α → W → Prop} (hs : Safe E I p R w) :
    Traces E p (fun a _ w' => R a w') w :=
  ((traces_trivial p w).and_safe hs).mono fun _ _ _ h => h.2

theorem Traces.and {p : Program C A α} {Q R : α → List (Event E) → W → Prop} (h : Traces E p Q w)
    (h' : Traces E p R w) : Traces E p (fun a tr w' => Q a tr w' ∧ R a tr w') w := by
  induction p generalizing w Q R with
  | done a => exact traces_done.mpr ⟨traces_done.mp h, traces_done.mp h'⟩
  | call c next ih =>
      rw [traces_call] at h h' ⊢
      intro m hm
      exact ih _ (h m hm) (h' m hm)

/-- Every move is on a call of the footprint. -/
theorem Traces.of_uses {P : C → Prop} {p : Program C A α} (hp : p.Uses P) (w : W) :
    Traces E p (fun _ tr _ => ∀ e ∈ tr, P e.1) w := by
  induction p generalizing w with
  | done a => exact traces_done.mpr (List.forall_mem_nil _)
  | call c next ih =>
      rw [Program.uses_call] at hp
      refine traces_call.mpr fun m _ => (ih _ (hp.2 _) _).mono fun a tr w' h => ?_
      exact List.forall_mem_cons.mpr ⟨hp.1, h⟩

/-- The same of a run that is stopped. -/
theorem Exec.uses {P : C → Prop} {p q : Program C A α} {w w' : W} {tr : List (Event E)}
    (h : Exec E p w tr q w') (hp : p.Uses P) : ∀ e ∈ tr, P e.1 := by
  induction h with
  | stop p w => exact List.forall_mem_nil _
  | call admitted rest ih =>
      rw [Program.uses_call] at hp
      exact List.forall_mem_cons.mpr ⟨hp.1, ih (hp.2 _)⟩

theorem Traces.of_returns {R : α → Prop} {p : Program C A α} (hp : p.Returns R) (w : W) :
    Traces E p (fun a _ _ => R a) w := .of_safe (safe_of_returns hp w)

/-! ## Programs that can fail -/

section Fallible

variable {y : ExceptT ε (Program C A) α} {f : α → ExceptT ε (Program C A) β}

theorem traces_run_pure {a : α} {Q : Except ε α → List (Event E) → W → Prop} :
    Traces E (pure a : ExceptT ε (Program C A) α).run Q w ↔ Q (.ok a) [] w := traces_done

theorem traces_run_throw {e : ε} {Q : Except ε α → List (Event E) → W → Prop} :
    Traces E (throw e : ExceptT ε (Program C A) α).run Q w ↔ Q (.error e) [] w := traces_done

/-- **Sequencing.**  The moves of the second part come after those of the first; after an error there are
no more. -/
theorem Traces.run_bind {R : Except ε α → List (Event E) → W → Prop}
    {Q : Except ε β → List (Event E) → W → Prop} (hy : Traces E y.run R w)
    (ok : ∀ a tr w', R (.ok a) tr w' → Traces E (f a).run (fun b tr' w'' => Q b (tr ++ tr') w'') w')
    (error : ∀ e tr w', R (.error e) tr w' → Q (.error e) tr w') : Traces E (y >>= f).run Q w := by
  rw [Effect.run_bind, traces_bind]
  refine hy.mono fun r tr w' hr => ?_
  cases r with
  | ok a => exact ok a tr w' hr
  | error e =>
      rw [continueWith_error, traces_done, List.append_nil]
      exact error e tr w' hr

end Fallible

/-! ## Narrowing the environment -/

/-- A run all of whose moves satisfy `P` is a run of the environment that makes no others. -/
theorem Exec.narrow {R : (c : C) → W → E.Move c → Prop} {P : (c : C) → E.Move c → Prop}
    {p q : Program C A α} {w' : W} {tr : List (Event (E.restrict R))}
    (h : Exec (E.restrict R) p w tr q w') (hP : ∀ e ∈ tr, P e.1 e.2) :
    Exec (E.restrict fun c w m => R c w m ∧ P c m) p w tr q w' := by
  induction h with
  | stop p w => exact .stop p w
  | call admitted rest ih =>
      obtain ⟨here, later⟩ := List.forall_mem_cons.mp hP
      exact .call ⟨admitted.1, admitted.2, here⟩ (ih later)

end MatterTimeCtl.Effect
