/-
# MatterTimeCtl.Text.Quantity — reading sums of quantities.

A quantity is a number followed by a unit (`412ms`, `3.2s`); a sum of them is written with spaces in between
(`1h 4m`).  What a unit is worth is a parameter.  A number with decimal places is read only where it is worth a whole
number, so that everything stays in ℕ.

A writer leaves out the parts of a sum that are zero.  `readSum_optional` says that what it writes reads back as the
sum all the same, as long as it writes something.
-/
import MatterTimeCtl.Text.Unsigned
import Mathlib

namespace MatterTimeCtl.Text

variable {units : List (List Char × Nat)}

/-! ## Reading -/

/-- So many tenths, hundredths, ... of a unit, when that is a whole number. -/
def scaled (mantissa places worth : Nat) : Option Nat :=
  if mantissa * worth % 10 ^ places = 0 then some (mantissa * worth / 10 ^ places) else none

/-- What follows the whole number of a quantity: the unit, or decimal places and the unit. -/
def readUnit (units : List (List Char × Nat)) (whole : Nat) : List Char → Option Nat
  | '.' :: rest =>
    (readDigits rest).bind fun (fraction, unit) =>
      let places := rest.length - unit.length
      (units.lookup unit).bind (scaled (whole * 10 ^ places + fraction) places)
  | unit => (units.lookup unit).map (whole * ·)

def readQuantity (units : List (List Char × Nat)) (text : List Char) : Option Nat :=
  (readDigits text).bind fun (whole, rest) => readUnit units whole rest

/-- Quantities with a space between each two. -/
def readSum (units : List (List Char × Nat)) (text : List Char) : Option Nat :=
  ((text.splitOn ' ').mapM (readQuantity units)).map List.sum

/-! ## One quantity -/

/-- Units are written in characters beyond the digits, so that they are told from the number in front of
them. -/
def UnitText (unit : List Char) : Prop := ∀ c ∈ unit, '9'.toNat < c.toNat

theorem UnitText.noDigit {unit : List Char} (h : UnitText unit) : NoDigit unit := by
  intro c hc
  have hbeyond := h c (List.mem_of_mem_head? hc)
  rw [← Bool.not_eq_true, Char.isDigit_iff_toNat]
  omega

theorem UnitText.not_mem {unit : List Char} (h : UnitText unit) {c : Char} (hc : c.toNat ≤ '9'.toNat) :
    c ∉ unit := by
  intro hmem
  have hbeyond := h c hmem
  omega

theorem readQuantity_whole (n : Nat) {unit : List Char} {worth : Nat} (hunit : UnitText unit)
    (hworth : units.lookup unit = some worth) :
    readQuantity units (Nat.toDigits 10 n ++ unit) = some (n * worth) := by
  unfold readQuantity
  rw [readDigits_append n hunit.noDigit, Option.bind_some]
  show readUnit units n unit = _
  unfold readUnit
  split
  · exact absurd List.mem_cons_self (hunit.not_mem (c := '.') (by decide))
  · rw [hworth, Option.map_some]

theorem readQuantity_decimal (whole fraction : Nat) {unit : List Char} {worth : Nat} (hunit : UnitText unit)
    (hworth : units.lookup unit = some worth) :
    readQuantity units (Nat.toDigits 10 whole ++ '.' :: (Nat.toDigits 10 fraction ++ unit)) =
      scaled (whole * 10 ^ (Nat.toDigits 10 fraction).length + fraction) (Nat.toDigits 10 fraction).length
        worth := by
  have hplaces : (Nat.toDigits 10 fraction ++ unit).length - unit.length =
      (Nat.toDigits 10 fraction).length := by
    rw [List.length_append]
    omega
  unfold readQuantity
  rw [readDigits_append whole (noDigit_cons rfl _), Option.bind_some]
  show (readDigits (Nat.toDigits 10 fraction ++ unit)).bind _ = _
  rw [readDigits_append fraction hunit.noDigit, Option.bind_some]
  dsimp only
  rw [hplaces, hworth, Option.bind_some]

/-! ## Sums -/

/-- The part of a sum is worth so much: it is read as that, or left out because it is nothing. -/
inductive Worth (units : List (List Char × Nat)) : Option String → Nat → Prop where
  | written {text : String} {worth : Nat} (hspace : ' ' ∉ text.toList)
      (hread : readQuantity units text.toList = some worth) : Worth units (some text) worth
  | omitted : Worth units none 0

theorem worth_whole (n : Nat) {unit : String} {worth : Nat} (hunit : UnitText unit.toList)
    (hworth : units.lookup unit.toList = some worth) : Worth units (some (toString n ++ unit)) (n * worth) := by
  have htext : (toString n ++ unit).toList = Nat.toDigits 10 n ++ unit.toList := by
    simp
  refine .written ?_ ?_
  · rw [htext, List.mem_append]
    rintro (hdigit | hspace)
    · exact absurd (Nat.isDigit_of_mem_toDigits (by decide) (by decide) hdigit) (by decide)
    · exact hunit.not_mem (by decide) hspace
  · rw [htext]
    exact readQuantity_whole n hunit hworth

/-- A part that is left out when its number is 0. -/
theorem worth_optional (n : Nat) {unit : String} {worth : Nat} (hunit : UnitText unit.toList)
    (hworth : units.lookup unit.toList = some worth) :
    Worth units (if n > 0 then some (toString n ++ unit) else none) (n * worth) := by
  split
  · exact worth_whole n hunit hworth
  · rename_i hzero
    obtain rfl : n = 0 := by omega
    rw [Nat.zero_mul]
    exact .omitted

/-- The parts that are written, one by one. -/
theorem mapM_readQuantity {parts : List (Option String)} {worths : List Nat}
    (h : List.Forall₂ (Worth units) parts worths) :
    ∃ read, ((parts.filterMap id).map String.toList).mapM (readQuantity units) = some read ∧
      read.sum = worths.sum ∧ ∀ text ∈ (parts.filterMap id).map String.toList, ' ' ∉ text := by
  induction h with
  | nil => exact ⟨[], rfl, rfl, by simp⟩
  | @cons part worth parts worths hpart _ ih =>
      obtain ⟨read, hread, hsum, hspace⟩ := ih
      cases hpart with
      | written hs hr =>
          refine ⟨worth :: read, ?_, by rw [List.sum_cons, List.sum_cons, hsum],
            List.forall_mem_cons.mpr ⟨hs, hspace⟩⟩
          show List.mapM (readQuantity units) (_ :: (parts.filterMap id).map String.toList) = _
          rw [List.mapM_cons, hr, hread]
          rfl
      | omitted =>
          refine ⟨read, hread, ?_, hspace⟩
          rw [List.sum_cons, hsum, Nat.zero_add]

/-- **A sum reads back**, whatever parts of it are left out. -/
theorem readSum_optional {parts : List (Option String)} {worths : List Nat}
    (h : List.Forall₂ (Worth units) parts worths) (hne : parts.filterMap id ≠ []) :
    readSum units (" ".intercalate (parts.filterMap id)).toList = some worths.sum := by
  obtain ⟨read, hread, hsum, hspace⟩ := mapM_readQuantity h
  have hne : (parts.filterMap id).map String.toList ≠ [] := fun hnil => hne (List.map_eq_nil_iff.mp hnil)
  unfold readSum
  rw [String.toList_intercalate]
  show Option.map _ (List.mapM _ (([' '].intercalate _).splitOn ' ')) = _
  rw [List.splitOn_intercalate ' ' hspace hne, hread, Option.map_some, hsum]

/-- A sum of one part. -/
theorem readSum_single {text : String} {worth : Nat} (h : Worth units (some text) worth) :
    readSum units text.toList = some worth := by
  have hsum := readSum_optional (.cons h .nil) (by simp)
  simpa using hsum

end MatterTimeCtl.Text
