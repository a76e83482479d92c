/-
# MatterTimeCtl.Schedule.StepFunction — right-open step functions and their pieces.

A step function over a linear order is a value at every instant together with the next jump after
every instant; between jumps the value is steady, and a jump need not change it.  Over an order in
which increasing sequences are finite (`WellFoundedGT`), the search for the next jump that *does*
change the value terminates, and the function can be cut into its maximal steady pieces.

`pieces f n t` is the list of the first `n` such pieces from `t` on.  The results say that these are
the pieces one expects: they tile an initial segment of `[t, ∞)` without gap or overlap, the function
is constant on each and changes at every inner boundary, and the last piece is open-ended exactly
when the function never changes again.
-/
import Mathlib.Order.WellFounded
import Mathlib.Order.Defs.LinearOrder
import Mathlib.Data.List.Chain

namespace MatterTimeCtl.Schedule

universe u v

/-- A right-open step function: its value, and the first jump strictly after an instant. -/
structure StepFunction (τ : Type u) (β : Type v) [LinearOrder τ] where
  value : τ → β
  next : τ → Option τ
  lt_next : ∀ {t s : τ}, next t = some s → t < s
  value_of_lt_next : ∀ {t s u : τ}, next t = some s → t ≤ u → u < s → value u = value t
  value_of_next_none : ∀ {t u : τ}, next t = none → t ≤ u → value u = value t

namespace StepFunction

variable {τ : Type u} {β : Type v} [LinearOrder τ]

/-! ## Tables -/

section Table

/-- The value at `t` of the function that starts with `initial` and jumps as the table says. -/
def valueAt (initial : β) : List (τ × β) → τ → β
  | [], _ => initial
  | (s, b) :: rest, t => if t < s then initial else valueAt b rest t

/-- The first jump of the table after `t`. -/
def nextAt : List (τ × β) → τ → Option τ
  | [], _ => none
  | (s, _) :: rest, t => if t < s then some s else nextAt rest t

theorem lt_nextAt {table : List (τ × β)} {t s : τ} (h : nextAt table t = some s) : t < s := by
  induction table with
  | nil => simp [nextAt] at h
  | cons e rest ih =>
      unfold nextAt at h
      split at h
      · rename_i hlt
        rw [← Option.some.inj h]
        exact hlt
      · exact ih h

theorem mem_of_nextAt {table : List (τ × β)} {t s : τ} (h : nextAt table t = some s) :
    ∃ b, (s, b) ∈ table := by
  induction table with
  | nil => simp [nextAt] at h
  | cons e rest ih =>
      obtain ⟨r, b⟩ := e
      unfold nextAt at h
      split at h
      · cases h
        exact ⟨b, List.mem_cons_self ..⟩
      · obtain ⟨b', hmem⟩ := ih h
        exact ⟨b', List.mem_cons_of_mem _ hmem⟩

theorem valueAt_of_lt_nextAt {table : List (τ × β)} {initial : β} {t s u : τ}
    (h : nextAt table t = some s) (htu : t ≤ u) (hus : u < s) :
    valueAt initial table u = valueAt initial table t := by
  induction table generalizing initial with
  | nil => rfl
  | cons e rest ih =>
      obtain ⟨r, b⟩ := e
      unfold nextAt at h
      unfold valueAt
      split at h
      · rename_i htr
        have hur : u < r := by rwa [Option.some.inj h]
        rw [if_pos hur, if_pos htr]
      · rename_i htr
        have hur : ¬ u < r := fun hur => htr (lt_of_le_of_lt htu hur)
        rw [if_neg hur, if_neg htr]
        exact ih h

theorem valueAt_of_nextAt_none {table : List (τ × β)} {initial : β} {t u : τ}
    (h : nextAt table t = none) (htu : t ≤ u) :
    valueAt initial table u = valueAt initial table t := by
  induction table generalizing initial with
  | nil => rfl
  | cons e rest ih =>
      obtain ⟨r, b⟩ := e
      unfold nextAt at h
      unfold valueAt
      split at h
      · exact absurd h (by simp)
      · rename_i htr
        have hur : ¬ u < r := fun hur => htr (lt_of_le_of_lt htu hur)
        rw [if_neg hur, if_neg htr]
        exact ih h

/-- The step function of a finite table of jumps. -/
def ofTable (initial : β) (table : List (τ × β)) : StepFunction τ β where
  value := valueAt initial table
  next := nextAt table
  lt_next := lt_nextAt
  value_of_lt_next := valueAt_of_lt_nextAt
  value_of_next_none := valueAt_of_nextAt_none

end Table

/-! ## The next change -/

variable [DecidableEq β]

/-- The first jump after `t` whose value is not `v`. -/
def nextChange [WellFoundedGT τ] (f : StepFunction τ β) (v : β) (t : τ) : Option τ :=
  match _ : f.next t with
  | none => none
  | some s => if f.value s ≠ v then some s else nextChange f v s
termination_by wellFounded_gt.wrap t
decreasing_by exact f.lt_next ‹_›

variable [WellFoundedGT τ] {f : StepFunction τ β}

/-- The search stops at a change: it lies after `t`, and up to it the value has not moved. -/
theorem nextChange_some {t s : τ} (h : f.nextChange (f.value t) t = some s) :
    t < s ∧ f.value s ≠ f.value t ∧ ∀ u, t ≤ u → u < s → f.value u = f.value t := by
  generalize hv : f.value t = v at h ⊢
  fun_induction nextChange f v t with
  | case1 t hn => exact absurd h (by simp)
  | case2 t r hn hne =>
      obtain rfl := Option.some.inj h
      exact ⟨f.lt_next hn, hne, fun u htu hur => (f.value_of_lt_next hn htu hur).trans hv⟩
  | case3 t r hn heq ih =>
      -- a jump that keeps the value: go on from it
      obtain ⟨hrs, hne, hrest⟩ := ih (not_not.mp heq) h
      refine ⟨(f.lt_next hn).trans hrs, hne, fun u htu hus => ?_⟩
      rcases lt_or_ge u r with hur | hru
      · exact (f.value_of_lt_next hn htu hur).trans hv
      · exact hrest u hru hus

/-- The search runs out only when the value never moves again. -/
theorem nextChange_none {t : τ} (h : f.nextChange (f.value t) t = none) :
    ∀ u, t ≤ u → f.value u = f.value t := by
  generalize hv : f.value t = v at h ⊢
  fun_induction nextChange f v t with
  | case1 t hn => exact fun u htu => (f.value_of_next_none hn htu).trans hv
  | case2 t r hn hne => exact absurd h (by simp)
  | case3 t r hn heq ih =>
      intro u htu
      rcases lt_or_ge u r with hur | hru
      · exact (f.value_of_lt_next hn htu hur).trans hv
      · exact ih (not_not.mp heq) h u hru

/-! ## Pieces -/

/-- A maximal interval on which the function is steady. -/
@[ext]
structure Piece (τ : Type u) (β : Type v) where
  start : τ
  stop : Option τ
  value : β

/-- The instant lies in the piece. -/
def Piece.Covers (p : Piece τ β) (u : τ) : Prop := p.start ≤ u ∧ ∀ s, p.stop = some s → u < s

/-- The first `n` pieces of `f` from `t` on. -/
def pieces (f : StepFunction τ β) : Nat → τ → List (Piece τ β)
  | 0, _ => []
  | n + 1, t =>
    match f.nextChange (f.value t) t with
    | none => [⟨t, none, f.value t⟩]
    | some s => ⟨t, some s, f.value t⟩ :: pieces f n s

theorem length_pieces (n : Nat) (t : τ) : (f.pieces n t).length ≤ n := by
  induction n generalizing t with
  | zero => simp [pieces]
  | succ n ih =>
      unfold pieces
      split
      · simp
      · simpa using ih _

theorem pieces_succ_ne_nil (n : Nat) (t : τ) : f.pieces (n + 1) t ≠ [] := by
  unfold pieces
  split <;> simp

theorem head?_pieces_succ (n : Nat) (t : τ) :
    ((f.pieces (n + 1) t).head?).map Piece.start = some t := by
  unfold pieces
  split <;> rfl

/-- What is true of each piece on its own: it is a proper interval, the function is constant on it, and
it is open-ended only when the function never changes again. -/
structure Piece.IsSteady (f : StepFunction τ β) (p : Piece τ β) : Prop where
  lt_stop : ∀ s, p.stop = some s → p.start < s
  value_eq : ∀ u, p.Covers u → f.value u = p.value
  changes : ∀ s, p.stop = some s → f.value s ≠ p.value

theorem isSteady_of_mem_pieces {n : Nat} {t : τ} {p : Piece τ β} (h : p ∈ f.pieces n t) :
    p.IsSteady f := by
  induction n generalizing t with
  | zero => simp [pieces] at h
  | succ n ih =>
      unfold pieces at h
      split at h
      · rename_i hn
        rw [List.mem_singleton] at h
        subst h
        exact ⟨by simp, fun u hu => nextChange_none hn u hu.1, by simp⟩
      · rename_i s hs
        obtain ⟨hts, hne, hsteady⟩ := nextChange_some hs
        rcases List.mem_cons.mp h with rfl | h
        · refine ⟨?_, fun u hu => hsteady u hu.1 (hu.2 s rfl), ?_⟩
          · rintro r hr
            rwa [← Option.some.inj hr]
          · rintro r hr
            rwa [← Option.some.inj hr]
        · exact ih h

theorem le_start_of_mem_pieces {n : Nat} {t : τ} {p : Piece τ β} (h : p ∈ f.pieces n t) :
    t ≤ p.start := by
  induction n generalizing t with
  | zero => simp [pieces] at h
  | succ n ih =>
      unfold pieces at h
      split at h
      · rw [List.mem_singleton] at h
        rw [h]
      · rename_i s hs
        rcases List.mem_cons.mp h with rfl | h
        · exact le_rfl
        · exact (nextChange_some hs).1.le.trans (ih h)

/-- An instant from `t` on lies in one of the pieces, or after all of them. -/
theorem covers_or_beyond (n : Nat) {t u : τ} (htu : t ≤ u) :
    (∃ p ∈ f.pieces n t, p.Covers u) ∨ ∀ p ∈ f.pieces n t, ∃ s, p.stop = some s ∧ s ≤ u := by
  induction n generalizing t with
  | zero => simp [pieces]
  | succ n ih =>
      unfold pieces
      split
      · exact .inl ⟨_, List.mem_singleton_self _, htu, by simp⟩
      · rename_i s hs
        rcases lt_or_ge u s with hus | hsu
        · refine .inl ⟨_, List.mem_cons_self .., htu, ?_⟩
          rintro r hr
          rwa [← Option.some.inj hr]
        · rcases ih hsu with ⟨p, hp, hc⟩ | beyond
          · exact .inl ⟨p, List.mem_cons_of_mem _ hp, hc⟩
          · exact .inr (List.forall_mem_cons.mpr ⟨⟨s, rfl, hsu⟩, beyond⟩)

/-- Neighbouring pieces meet, and the function changes where they meet. -/
def Piece.Meets (p q : Piece τ β) : Prop := p.stop = some q.start ∧ p.value ≠ q.value

theorem isChain_pieces (n : Nat) (t : τ) : (f.pieces n t).IsChain Piece.Meets := by
  induction n generalizing t with
  | zero => simp [pieces]
  | succ n ih =>
      unfold pieces
      split
      · simp
      · rename_i s hs
        have hne := (nextChange_some hs).2.1
        cases n with
        | zero => simp [pieces]
        | succ n =>
            have hrest := ih s
            unfold pieces at hrest ⊢
            split
            · exact List.isChain_cons_cons.mpr ⟨⟨rfl, hne.symm⟩, by simp⟩
            · rename_i r hr
              simp only [hr] at hrest
              exact List.isChain_cons_cons.mpr ⟨⟨rfl, hne.symm⟩, hrest⟩

/-- Of two pieces in the list, the earlier one stops no later than the other starts. -/
theorem pairwise_pieces (n : Nat) (t : τ) :
    (f.pieces n t).Pairwise fun p q => ∃ s, p.stop = some s ∧ s ≤ q.start := by
  induction n generalizing t with
  | zero => simp [pieces]
  | succ n ih =>
      unfold pieces
      split
      · simp
      · rename_i s hs
        exact List.pairwise_cons.mpr ⟨fun q hq => ⟨s, rfl, le_start_of_mem_pieces hq⟩, ih s⟩

/-- An open-ended piece is the last one. -/
theorem stop_none_is_last {n : Nat} {t : τ} {i : Nat} {p : Piece τ β}
    (h : (f.pieces n t)[i]? = some p) (hp : p.stop = none) : i + 1 = (f.pieces n t).length := by
  obtain ⟨hi, hpi⟩ := List.getElem?_eq_some_iff.mp h
  by_contra hlast
  have hi' : i + 1 < (f.pieces n t).length := by omega
  obtain ⟨s, hs, _⟩ := List.pairwise_iff_getElem.mp (pairwise_pieces n t) i (i + 1) hi hi' (by omega)
  rw [hpi, hp] at hs
  exact absurd hs (by simp)

end StepFunction

end MatterTimeCtl.Schedule
