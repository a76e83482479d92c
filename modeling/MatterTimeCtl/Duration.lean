/-
# MatterTimeCtl.Duration — what a printed duration says.

`compactDuration` has five formats: microseconds, milliseconds, seconds with a tenth, and two sums of units, with
seconds below a day and without from a day on.  What it prints is never empty and reads back as the duration rounded
down to the resolution of its magnitude (`readDuration_compactDuration`), so it is never overstated and off by
less than that resolution.  At every change of format the finer resolution divides the threshold, which keeps
the printed values in order.
-/
import MatterTimeCtl.Time
import MatterTimeCtl.Text.Quantity

namespace MatterTimeCtl

open Text

/-! ## Reading a duration -/

/-- The units of a printed duration, in microseconds. -/
def durationUnits : List (List Char × Nat) :=
  [("us".toList, 1), ("ms".toList, 1000), ("s".toList, 1000000), ("m".toList, 60 * 1000000),
    ("h".toList, 3600 * 1000000), ("d".toList, 86400 * 1000000)]

/-- The sum of the units of a text, in microseconds. -/
def readDuration (text : String) : Option Nat := readSum durationUnits text.toList

/-- What a duration is printed in multiples of. -/
def resolution (micros : Nat) : Nat :=
  if micros < 1000 then 1
  else if micros < 1000000 then 1000
  else if micros < 60 * 1000000 then 100000
  else if micros < 86400 * 1000000 then 1000000
  else 60 * 1000000

/-- The duration, rounded down to its resolution. -/
def rounded (micros : Nat) : Nat := micros - micros % resolution micros

theorem unitText_of_mem {unit : List Char} {worth : Nat} (h : (unit, worth) ∈ durationUnits) :
    UnitText unit := by
  have hall : (durationUnits.all fun entry => entry.1.all fun c => decide ('9'.toNat < c.toNat)) = true := rfl
  intro c hc
  exact of_decide_eq_true (List.all_eq_true.mp (List.all_eq_true.mp hall _ h) c hc)

theorem lookup_of_mem {unit : List Char} {worth : Nat} (h : (unit, worth) ∈ durationUnits) :
    durationUnits.lookup unit = some worth := by
  have hall : (durationUnits.all fun entry => durationUnits.lookup entry.1 == some entry.2) = true := rfl
  exact beq_iff_eq.mp (List.all_eq_true.mp hall _ h)

theorem us_mem : ("us".toList, 1) ∈ durationUnits := by decide

theorem ms_mem : ("ms".toList, 1000) ∈ durationUnits := by decide

theorem s_mem : ("s".toList, 1000000) ∈ durationUnits := by decide

/-! ## The formats -/

theorem worth_unit (n : Nat) {unit : String} {worth : Nat} (h : (unit.toList, worth) ∈ durationUnits) :
    Worth durationUnits (some (toString n ++ unit)) (n * worth) :=
  worth_whole n (unitText_of_mem h) (lookup_of_mem h)

theorem worth_nonzero (n : Nat) {unit : String} {worth : Nat} (h : (unit.toList, worth) ∈ durationUnits) :
    Worth durationUnits (if n > 0 then some (toString n ++ unit) else none) (n * worth) :=
  worth_optional n (unitText_of_mem h) (lookup_of_mem h)

/-- Seconds with a tenth. -/
theorem worth_tenths (seconds : Nat) {tenths : Nat} (h : tenths < 10) :
    Worth durationUnits (some (toString seconds ++ "." ++ toString tenths ++ "s"))
      (seconds * 1000000 + tenths * 100000) := by
  have hplaces : (Nat.toDigits 10 tenths).length = 1 := by
    rw [Nat.toDigits_of_lt_base h]
    rfl
  have htext : (toString seconds ++ "." ++ toString tenths ++ "s").toList =
      Nat.toDigits 10 seconds ++ '.' :: (Nat.toDigits 10 tenths ++ "s".toList) := by
    simp
  refine .written ?_ ?_
  · have hdigit : ∀ n, ' ' ∉ Nat.toDigits 10 n := fun n hspace =>
      absurd (Nat.isDigit_of_mem_toDigits (by decide) (by decide) hspace) (by decide)
    rw [htext]
    simp [hdigit]
  · rw [htext, readQuantity_decimal seconds tenths (unitText_of_mem s_mem) (lookup_of_mem s_mem), hplaces]
    unfold scaled
    rw [if_pos (by omega)]
    congr 1
    omega

/-- Days, hours, minutes and, below a day, seconds. -/
theorem worth_units (days hours minutes seconds : Nat) :
    List.Forall₂ (Worth durationUnits)
      [ if days > 0 then some (toString days ++ "d") else none,
        if hours > 0 then some (toString hours ++ "h") else none,
        if minutes > 0 then some (toString minutes ++ "m") else none,
        if seconds > 0 ∧ days = 0 then some (toString seconds ++ "s") else none ]
      [ days * (86400 * 1000000), hours * (3600 * 1000000), minutes * (60 * 1000000),
        if days = 0 then seconds * 1000000 else 0 ] := by
  refine .cons (worth_nonzero days (by decide)) (.cons (worth_nonzero hours (by decide))
    (.cons (worth_nonzero minutes (by decide)) (.cons ?_ .nil)))
  by_cases hday : days = 0
  · simp only [hday, and_true, if_true]
    exact worth_nonzero seconds (by decide)
  · simp only [hday, and_false, if_false]
    exact .omitted

/-- A minute or more has a unit to be printed in. -/
theorem units_ne_nil {days hours minutes : Nat} (seconds : Option String)
    (h : 0 < days ∨ 0 < hours ∨ 0 < minutes) :
    [ if days > 0 then some (toString days ++ "d") else none,
      if hours > 0 then some (toString hours ++ "h") else none,
      if minutes > 0 then some (toString minutes ++ "m") else none,
      seconds ].filterMap id ≠ [] := by
  rw [Ne, List.filterMap_eq_nil_iff]
  intro hnone
  rcases h with h | h | h
  · have hpart := hnone _ (List.mem_cons_self ..)
    rw [if_pos h] at hpart
    cases hpart
  · have hpart := hnone _ (List.mem_cons_of_mem _ (List.mem_cons_self ..))
    rw [if_pos h] at hpart
    cases hpart
  · have hpart := hnone _ (List.mem_cons_of_mem _ (List.mem_cons_of_mem _ (List.mem_cons_self ..)))
    rw [if_pos h] at hpart
    cases hpart

/-! ## Durations read back -/

/-- Less than a minute. -/
theorem readDuration_short {micros : Nat} (h : micros < 60 * 1000000) :
    readDuration (compactDuration micros) = some (rounded micros) := by
  unfold readDuration compactDuration rounded resolution
  by_cases hus : micros < 1000
  · rw [if_pos hus, if_pos hus, readSum_single (worth_unit micros us_mem)]
    congr 1
    omega
  by_cases hms : micros < 1000000
  · rw [if_neg hus, if_pos hms, if_neg hus, if_pos hms,
      readSum_single (worth_unit (micros / 1000) ms_mem)]
    congr 1
    omega
  rw [if_neg hus, if_neg hms, if_neg hus, if_neg hms, if_pos h]
  dsimp only
  rw [if_pos (by omega)]
  split
  · rw [readSum_single (worth_unit (micros / 1000000) s_mem)]
    congr 1
    omega
  · rw [readSum_single (worth_tenths (micros / 1000000) (by omega))]
    congr 1
    omega

/-- The sum of the units is the duration, less the seconds from a day on and less what is below a second. -/
theorem sum_units {micros : Nat} (h : 60 * 1000000 ≤ micros) :
    micros / 1000000 / 86400 * (86400 * 1000000) + (micros / 1000000 % 86400 / 3600 * (3600 * 1000000) +
      (micros / 1000000 % 3600 / 60 * (60 * 1000000) +
        (if micros / 1000000 / 86400 = 0 then micros / 1000000 % 60 * 1000000 else 0))) = rounded micros := by
  unfold rounded resolution
  split_ifs <;> omega

/-- A minute or more. -/
theorem readDuration_long {micros : Nat} (h : 60 * 1000000 ≤ micros) :
    readDuration (compactDuration micros) = some (rounded micros) := by
  have hus : ¬ micros < 1000 := by omega
  have hms : ¬ micros < 1000000 := by omega
  have hminute : ¬ micros / 1000000 < 60 := by omega
  have hsome : 0 < micros / 1000000 / 86400 ∨ 0 < micros / 1000000 % 86400 / 3600 ∨
      0 < micros / 1000000 % 3600 / 60 := by
    generalize micros / 1000000 = total at hminute
    omega
  have hread := readSum_optional (worth_units (micros / 1000000 / 86400) (micros / 1000000 % 86400 / 3600)
    (micros / 1000000 % 3600 / 60) (micros / 1000000 % 60)) (units_ne_nil _ hsome)
  rw [List.sum_cons, List.sum_cons, List.sum_cons, List.sum_cons, List.sum_nil, Nat.add_zero,
    sum_units h] at hread
  unfold readDuration compactDuration
  rw [if_neg hus, if_neg hms]
  dsimp only
  rw [if_neg hminute, hread]

theorem readDuration_compactDuration (micros : Nat) :
    readDuration (compactDuration micros) = some (rounded micros) := by
  rcases Nat.lt_or_ge micros (60 * 1000000) with hshort | hlong
  · exact readDuration_short hshort
  · exact readDuration_long hlong

theorem compactDuration_ne_empty (micros : Nat) : compactDuration micros ≠ "" := by
  intro hempty
  have hread := readDuration_compactDuration micros
  rw [hempty] at hread
  cases hread

/-! ## What is rounded off -/

theorem resolution_pos (micros : Nat) : 0 < resolution micros := by
  unfold resolution
  split_ifs <;> omega

theorem rounded_le (micros : Nat) : rounded micros ≤ micros := Nat.sub_le _ _

theorem sub_rounded_lt (micros : Nat) : micros - rounded micros < resolution micros := by
  have hlt := Nat.mod_lt micros (resolution_pos micros)
  have hle := Nat.mod_le micros (resolution micros)
  unfold rounded
  omega

/-- Each threshold between two formats is a multiple of both resolutions, so rounding down does not cross it. -/
theorem rounded_mono {m n : Nat} (h : m ≤ n) : rounded m ≤ rounded n := by
  unfold rounded resolution
  split_ifs <;> omega

/-- **Printed durations are never overstated and never vague.**  What is printed is not empty and reads back, as
the sum of its units, as a value at most the duration and less than the resolution of its magnitude below it;
so a longer duration never reads as a shorter one. -/
theorem compactDuration_exact (micros : Nat) : compactDuration micros ≠ "" ∧
    ∃ v, readDuration (compactDuration micros) = some v ∧ v ≤ micros ∧ micros - v < resolution micros ∧
      ∀ longer, micros ≤ longer → ∃ w, readDuration (compactDuration longer) = some w ∧ v ≤ w :=
  ⟨compactDuration_ne_empty micros, rounded micros, readDuration_compactDuration micros, rounded_le micros,
    sub_rounded_lt micros, fun longer h =>
      ⟨rounded longer, readDuration_compactDuration longer, rounded_mono h⟩⟩

example : compactDuration 90061000000 = "1d 1h 1m" ∧ readDuration "1d 1h 1m" = some 90060000000 := by decide

end MatterTimeCtl
