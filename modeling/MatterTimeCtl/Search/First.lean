/-
# MatterTimeCtl.Search.First — the first element of a list with a property.

`First P l a` says that `a` is the first element of `l` that satisfies `P`.  There is one whenever some element
satisfies `P`, and only one; and a search through filters, partial maps and `findSome?` finds what it
makes of the first element that gets through.
-/
import Mathlib.Data.List.Basic

namespace MatterTimeCtl.Search

variable {α β : Type} {P : α → Prop} {l : List α}

/-- `a` is the first of the list with the property. -/
def First (P : α → Prop) (l : List α) (a : α) : Prop :=
  ∃ pre post, l = pre ++ a :: post ∧ P a ∧ ∀ x ∈ pre, ¬ P x

theorem First.mem {a : α} (h : First P l a) : a ∈ l := by
  obtain ⟨pre, post, rfl, -⟩ := h
  exact List.mem_append_right _ (List.mem_cons_self ..)

theorem First.holds {a : α} (h : First P l a) : P a := by
  obtain ⟨-, -, -, h, -⟩ := h
  exact h

theorem First.congr {Q : α → Prop} (hPQ : ∀ a, P a ↔ Q a) {a : α} (h : First P l a) : First Q l a := by
  obtain ⟨pre, post, rfl, ha, hpre⟩ := h
  exact ⟨pre, post, rfl, (hPQ a).mp ha, fun x hx => mt (hPQ x).mpr (hpre x hx)⟩

theorem exists_first (h : ∃ a ∈ l, P a) : ∃ a, First P l a := by
  induction l with
  | nil =>
      obtain ⟨a, ha, -⟩ := h
      cases ha
  | cons b l ih =>
      by_cases hb : P b
      · exact ⟨b, [], l, rfl, hb, by simp⟩
      · obtain ⟨a, ha, hP⟩ := h
        have hrest : a ∈ l := (List.mem_cons.mp ha).resolve_left fun h => hb (h ▸ hP)
        obtain ⟨c, pre, post, rfl, hc, hpre⟩ := ih ⟨a, hrest, hP⟩
        exact ⟨c, b :: pre, post, rfl, hc, List.forall_mem_cons.mpr ⟨hb, hpre⟩⟩

/-- Two first ones are the same. -/
theorem First.unique {a b : α} (ha : First P l a) (hb : First P l b) : a = b := by
  induction l with
  | nil => exact absurd ha.mem (List.not_mem_nil)
  | cons c l ih =>
      obtain ⟨pre, post, hl, hPa, hpre⟩ := ha
      obtain ⟨pre', post', hl', hPb, hpre'⟩ := hb
      cases pre with
      | nil =>
          obtain ⟨rfl, rfl⟩ := List.cons.inj hl
          cases pre' with
          | nil => exact (List.cons.inj hl').1
          | cons d pre' =>
              obtain rfl := (List.cons.inj hl').1
              exact absurd hPa (hpre' c (List.mem_cons_self ..))
      | cons d pre =>
          obtain ⟨rfl, hrest⟩ := List.cons.inj hl
          cases pre' with
          | nil =>
              obtain rfl := (List.cons.inj hl').1
              exact absurd hPb (hpre c (List.mem_cons_self ..))
          | cons e pre' =>
              obtain ⟨-, hrest'⟩ := List.cons.inj hl'
              exact ih ⟨pre, post, hrest, hPa, fun x hx => hpre x (List.mem_cons_of_mem _ hx)⟩
                ⟨pre', post', hrest', hPb, fun x hx => hpre' x (List.mem_cons_of_mem _ hx)⟩

/-- A search finds what it makes of the first element that it makes something of. -/
theorem findSome?_eq_some_iff_first {g : α → Option β} {b : β} :
    l.findSome? g = some b ↔ ∃ a, First (fun a => (g a).isSome) l a ∧ g a = some b := by
  rw [List.findSome?_eq_some_iff]
  constructor
  · rintro ⟨pre, a, post, rfl, ha, hpre⟩
    exact ⟨a, ⟨pre, post, rfl, by simp [ha], fun x hx => by simp [hpre x hx]⟩, ha⟩
  · rintro ⟨a, ⟨pre, post, rfl, -, hpre⟩, ha⟩
    exact ⟨pre, a, post, rfl, ha, fun x hx => by simpa using hpre x hx⟩

theorem findSome?_filter (q : α → Bool) (g : α → Option β) :
    (l.filter q).findSome? g = l.findSome? fun a => if q a then g a else none := by
  induction l with
  | nil => rfl
  | cons a l ih =>
      rw [List.filter_cons, List.findSome?_cons]
      by_cases ha : q a
      · rw [if_pos ha, if_pos ha, List.findSome?_cons, ih]
      · rw [if_neg ha, if_neg ha, ih]

theorem findSome?_filterMap {γ : Type} (h : α → Option γ) (g : γ → Option β) :
    (l.filterMap h).findSome? g = l.findSome? fun a => (h a).bind g := by
  induction l with
  | nil => rfl
  | cons a l ih =>
      rw [List.findSome?_cons]
      cases ha : h a with
      | none => rw [List.filterMap_cons_none ha, ih, Option.bind_none]
      | some c => rw [List.filterMap_cons_some ha, List.findSome?_cons, ih, Option.bind_some]

end MatterTimeCtl.Search
