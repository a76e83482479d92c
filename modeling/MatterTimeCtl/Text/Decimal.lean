/-
# MatterTimeCtl.Text.Decimal — decimal digits of a fixed number of places.

`value` folds digits, the most significant first; `padded k n` writes `n` with `k` places.  Between lists of
`k` digits and numbers below `10 ^ k` they are inverse to each other (`value_padded`, `padded_value`).
-/
import Mathlib.Tactic.Ring
import Mathlib.Data.List.Induction

namespace MatterTimeCtl.Text

/-- The number that digits spell, the most significant first. -/
def value (digits : List Nat) : Nat := digits.foldl (fun n d => n * 10 + d) 0

/-- `n` with `places` digits. -/
def padded : Nat → Nat → List Nat
  | 0, _ => []
  | places + 1, n => padded places (n / 10) ++ [n % 10]

theorem value_append_singleton (digits : List Nat) (d : Nat) :
    value (digits ++ [d]) = value digits * 10 + d := by
  rw [value, List.foldl_append, List.foldl_cons, List.foldl_nil, value]

@[simp] theorem length_padded (places n : Nat) : (padded places n).length = places := by
  induction places generalizing n with
  | zero => rfl
  | succ places ih => rw [padded, List.length_append, ih, List.length_singleton]

theorem padded_lt_ten {places n d : Nat} (h : d ∈ padded places n) : d < 10 := by
  induction places generalizing n with
  | zero => cases h
  | succ places ih =>
      rw [padded, List.mem_append, List.mem_singleton] at h
      rcases h with h | rfl
      · exact ih h
      · omega

/-- **A number written out spells itself**, when it has enough places. -/
theorem value_padded {places n : Nat} (h : n < 10 ^ places) : value (padded places n) = n := by
  induction places generalizing n with
  | zero =>
      rw [pow_zero] at h
      obtain rfl : n = 0 := by omega
      rfl
  | succ places ih =>
      rw [pow_succ] at h
      rw [padded, value_append_singleton, ih (by omega)]
      omega

/-- **Digits are those of the number they spell.** -/
theorem padded_value {digits : List Nat} (h : ∀ d ∈ digits, d < 10) :
    padded digits.length (value digits) = digits := by
  induction digits using List.reverseRecOn with
  | nil => rfl
  | append_singleton digits d ih =>
      have hlast := h d (by simp)
      have hrest := ih fun e he => h e (List.mem_append_left _ he)
      have hdiv : (value digits * 10 + d) / 10 = value digits := by omega
      have hmod : (value digits * 10 + d) % 10 = d := by omega
      rw [value_append_singleton, List.length_append, List.length_singleton, padded, hdiv, hmod, hrest]

end MatterTimeCtl.Text
