/-
# MatterTimeCtl.Effect.Monitor — what a program may call next, by what it has called and been answered so far.

A `Monitor` is an automaton over calls and answers: in each of its states it allows some calls, and an answer takes
it to its next state.  `Heeds M p Q s` says that `p`, whatever it is answered, makes only calls that `M` allows from
`s` on, and that a value it returns and the state `M` is in by then satisfy `Q`.  It is computed on the tree, so it
is about no environment in particular: `Path p log q` is a run of `p` under any answers at all, stopped anywhere, and
runs in an environment are paths (`Exec.path`).
-/
import MatterTimeCtl.Effect.Environment

namespace MatterTimeCtl.Effect

universe u v w x y

/-! ## Paths -/

section Paths

variable {W : Type x} {C : Type u} {A : C → Type v} {α β : Type w}

/-- A call and what it was answered. -/
abbrev Entry (A : C → Type v) := Σ c : C, A c

/-- **A run under any answers**, stopped anywhere: after the calls in the log, the last program is left to run. -/
inductive Program.Path : Program C A α → List (Entry A) → Program C A α → Prop where
  | stop (p : Program C A α) : Path p [] p
  | call {c : C} {next : A c → Program C A α} {a : A c} {log : List (Entry A)} {q : Program C A α}
      (rest : Path (next a) log q) : Path (.call c next) (⟨c, a⟩ :: log) q

theorem Program.Path.append {p q q' : Program C A α} {log log' : List (Entry A)} (h : p.Path log q)
    (h' : q.Path log' q') : p.Path (log ++ log') q' := by
  induction h with
  | stop p => exact h'
  | call _ ih => exact .call (ih h')

theorem Program.Path.bind {p q : Program C A α} {log : List (Entry A)} (h : p.Path log q)
    (f : α → Program C A β) : (p >>= f).Path log (q >>= f) := by
  induction h with
  | stop p => exact .stop _
  | call _ ih => exact .call ih

variable {E : Environment W C A}

/-- What was called and answered in the moves of a run. -/
def Environment.log (E : Environment W C A) : W → List (Event E) → List (Entry A)
  | _, [] => []
  | w, ⟨c, m⟩ :: tr => ⟨c, E.answer c w m⟩ :: E.log (E.next c w m) tr

theorem Exec.path {p q : Program C A α} {w w' : W} {tr : List (Event E)} (h : Exec E p w tr q w') :
    p.Path (E.log w tr) q := by
  induction h with
  | stop p w => exact .stop p
  | call _ _ ih => exact .call ih

end Paths

/-! ## Monitors -/

/-- An automaton over calls and answers. -/
structure Monitor (C : Type u) (A : C → Type v) (σ : Type y) where
  may : σ → C → Prop
  see : σ → (c : C) → A c → σ

section Monitors

variable {C : Type u} {A : C → Type v} {σ : Type y} {α β : Type w} {ε : Type w}

/-- Every call of the log is allowed in the state that the calls before it led to. -/
def Monitor.Accepts (M : Monitor C A σ) : σ → List (Entry A) → Prop
  | _, [] => True
  | s, ⟨c, a⟩ :: log => M.may s c ∧ M.Accepts (M.see s c a) log

/-- The state a log leads to. -/
def Monitor.after (M : Monitor C A σ) (s : σ) (log : List (Entry A)) : σ :=
  log.foldl (fun s e => M.see s e.1 e.2) s

variable {M : Monitor C A σ} {s : σ}

theorem Monitor.accepts_append {log log' : List (Entry A)} :
    M.Accepts s (log ++ log') ↔ M.Accepts s log ∧ M.Accepts (M.after s log) log' := by
  induction log generalizing s with
  | nil => exact (and_iff_right trivial).symm
  | cons e log ih =>
      rw [List.cons_append, Monitor.Accepts, Monitor.Accepts, ih, and_assoc]
      rfl

theorem Monitor.after_concat {log : List (Entry A)} {c : C} {a : A c} :
    M.after s (log ++ [⟨c, a⟩]) = M.see (M.after s log) c a := by
  rw [Monitor.after, List.foldl_append]
  rfl

/-- A call in the middle of a log is allowed where it is made. -/
theorem Monitor.Accepts.may {pre post : List (Entry A)} {c : C} {a : A c}
    (h : M.Accepts s (pre ++ ⟨c, a⟩ :: post)) : M.may (M.after s pre) c := (accepts_append.mp h).2.1

/-- **Whatever it is answered**, the program makes only calls that the monitor allows. -/
def Heeds (M : Monitor C A σ) : Program C A α → (α → σ → Prop) → σ → Prop
  | .done a, Q, s => Q a s
  | .call c next, Q, s => M.may s c ∧ ∀ a, Heeds M (next a) Q (M.see s c a)

@[simp] theorem heeds_done {a : α} {Q : α → σ → Prop} : Heeds M (.done a) Q s ↔ Q a s := Iff.rfl

@[simp] theorem heeds_call {c : C} {next : A c → Program C A α} {Q : α → σ → Prop} :
    Heeds M (.call c next) Q s ↔ M.may s c ∧ ∀ a, Heeds M (next a) Q (M.see s c a) := Iff.rfl

attribute [irreducible] Heeds

/-- The judgement says what it is meant to say about paths. -/
theorem Heeds.path {p q : Program C A α} {Q : α → σ → Prop} {log : List (Entry A)} (h : Heeds M p Q s)
    (path : p.Path log q) : M.Accepts s log ∧ Heeds M q Q (M.after s log) := by
  induction path generalizing s with
  | stop p => exact ⟨trivial, h⟩
  | call _ ih =>
      rw [heeds_call] at h
      obtain ⟨accepts, rest⟩ := ih (h.2 _)
      exact ⟨⟨h.1, accepts⟩, rest⟩

theorem Heeds.accepts {p q : Program C A α} {Q : α → σ → Prop} {log : List (Entry A)} (h : Heeds M p Q s)
    (path : p.Path log q) : M.Accepts s log := (h.path path).1

theorem Heeds.mono {p : Program C A α} {Q R : α → σ → Prop} (h : Heeds M p Q s)
    (hQ : ∀ a s', Q a s' → R a s') : Heeds M p R s := by
  induction p generalizing s with
  | done a => exact heeds_done.mpr (hQ a s (heeds_done.mp h))
  | call c next ih =>
      rw [heeds_call] at h ⊢
      exact ⟨h.1, fun a => ih a (h.2 a)⟩

theorem heeds_bind {p : Program C A α} {f : α → Program C A β} {Q : β → σ → Prop} :
    Heeds M (p >>= f) Q s ↔ Heeds M p (fun a s' => Heeds M (f a) Q s') s := by
  induction p generalizing s with
  | done a => rw [Program.done_bind, heeds_done]
  | call c next ih =>
      rw [Program.call_bind, heeds_call, heeds_call]
      exact and_congr_right fun _ => forall_congr' fun a => ih a

/-- A part whose calls the monitor allows and does not look at. -/
theorem Heeds.of_uses {P : C → Prop} {p : Program C A α} (hp : p.Uses P)
    (silent : ∀ c, P c → M.may s c ∧ ∀ a, M.see s c a = s) : Heeds M p (fun _ s' => s' = s) s := by
  induction p with
  | done a => exact heeds_done.mpr rfl
  | call c next ih =>
      rw [Program.uses_call] at hp
      obtain ⟨may, same⟩ := silent c hp.1
      exact heeds_call.mpr ⟨may, fun a => by
        rw [same a]
        exact ih a (hp.2 a)⟩

/-- A part whose calls keep what is needed to make them. -/
theorem Heeds.of_keeps {P : C → Prop} {I : σ → Prop} {p : Program C A α} (hp : p.Uses P)
    (keeps : ∀ c s, P c → I s → M.may s c ∧ ∀ a, I (M.see s c a)) (hs : I s) : Heeds M p (fun _ => I) s := by
  induction p generalizing s with
  | done a => exact heeds_done.mpr hs
  | call c next ih =>
      rw [Program.uses_call] at hp
      obtain ⟨may, still⟩ := keeps c s hp.1 hs
      exact heeds_call.mpr ⟨may, fun a => ih a (hp.2 a) (still a)⟩

/-- What one monitor allows of a part, another does not look at. -/
theorem Heeds.transfer {τ : Type y} {N : Monitor C A τ} {t : τ} {P : C → Prop} {p : Program C A α}
    {Q : α → σ → Prop} (h : Heeds M p Q s) (hp : p.Uses P)
    (allowed : ∀ s c, P c → M.may s c → N.may t c ∧ ∀ a, N.see t c a = t) : Heeds N p (fun _ t' => t' = t) t := by
  induction p generalizing s with
  | done a => exact heeds_done.mpr rfl
  | call c next ih =>
      rw [heeds_call] at h
      rw [Program.uses_call] at hp
      obtain ⟨may, same⟩ := allowed s c hp.1 h.1
      refine heeds_call.mpr ⟨may, fun a => ?_⟩
      rw [same a]
      exact ih a (h.2 a) (hp.2 a)

theorem Heeds.and_returns {R : α → Prop} {p : Program C A α} {Q : α → σ → Prop} (h : Heeds M p Q s)
    (hp : p.Returns R) : Heeds M p (fun a s' => Q a s' ∧ R a) s := by
  induction p generalizing s with
  | done a => exact heeds_done.mpr ⟨heeds_done.mp h, Program.returns_done.mp hp⟩
  | call c next ih =>
      rw [heeds_call] at h ⊢
      rw [Program.returns_call] at hp
      exact ⟨h.1, fun a => ih a (h.2 a) (hp a)⟩

/-! ### Programs that can fail -/

section Fallible

variable {y : ExceptT ε (Program C A) α} {f : α → ExceptT ε (Program C A) β}

theorem Heeds.run_bind {R : Except ε α → σ → Prop} {Q : Except ε β → σ → Prop} (hy : Heeds M y.run R s)
    (ok : ∀ a s', R (.ok a) s' → Heeds M (f a).run Q s')
    (error : ∀ e s', R (.error e) s' → Q (.error e) s') : Heeds M (y >>= f).run Q s := by
  rw [Effect.run_bind, heeds_bind]
  refine hy.mono fun r s' hr => ?_
  cases r with
  | ok a => exact ok a s' hr
  | error e => exact heeds_done.mpr (error e s' hr)

end Fallible

end Monitors

end MatterTimeCtl.Effect
