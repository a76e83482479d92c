/-
# MatterTimeCtl.Conversion — Matter time and instants, there and back.

Three ranges meet in the two conversions: `u64` on the wire, `i64` in between, and the years an instant may
lie in, counted from another epoch.  On one side the conversion clamps (an instant before the Matter epoch
is 0), on the other it refuses (most of `u64` lies after the year 9999).  The refusal is that of
`from_microsecond`, whose range ends with the last whole second: an instant goes on for 999999999 ns more.
Up to there, a Matter time that converts comes back unchanged, an instant comes back with its last three
digits cut off, and in between nothing leaves `i64`: the conversions are written once more with every
intermediate result checked, as the clock comparison is in `MatterTimeCtl.ClockArithmetic`.
-/
import MatterTimeCtl.ClockArithmetic
import MatterTimeCtl.Reference.Externals
import MatterTimeCtl.TzRefine

namespace MatterTimeCtl

/-! ## Matter time on the scale of instants -/

namespace MatterMicros

theorem micros_injective : Function.Injective MatterMicros.micros := fun _ _ h => MatterMicros.ext h

instance : LinearOrder MatterMicros := LinearOrder.lift' MatterMicros.micros micros_injective

theorem le_def {m n : MatterMicros} : m ≤ n ↔ m.micros ≤ n.micros := Iff.rfl

/-- So many microseconds after 2000-01-01T00:00:00Z, in nanoseconds since the Unix epoch. -/
def unixNanos (m : MatterMicros) : Int := matterEpochUnixSeconds * 1000000000 + m.micros * 1000

end MatterMicros

namespace Timestamp

/-- The division by 1000 that truncates towards zero, by two that round down. -/
theorem asMicrosecond_eq (t : Timestamp) :
    t.asMicrosecond = if 0 ≤ t.nanos then t.nanos / 1000 else -(-t.nanos / 1000) := by
  split
  · rename_i hpos
    exact asMicrosecond_of_nonneg hpos
  · rename_i hneg
    have hopp : (-t.nanos).tdiv 1000 = -t.nanos / 1000 := Int.tdiv_eq_ediv_of_nonneg (by omega)
    rw [Int.neg_tdiv] at hopp
    unfold asMicrosecond
    omega

/-- Truncated to microseconds, an instant is still within the range of instants. -/
theorem truncated_range (t : Timestamp) :
    minNanos ≤ t.asMicrosecond * 1000 ∧ t.asMicrosecond * 1000 ≤ maxNanos := by
  have hmin := t.min_le
  have hmax := t.le_max
  rw [asMicrosecond_eq]
  unfold minNanos maxNanos at *
  split <;> omega

/-- The instant without what is below a microsecond. -/
def truncated (t : Timestamp) : Timestamp :=
  ⟨t.asMicrosecond * 1000, t.truncated_range.1, t.truncated_range.2⟩

end Timestamp

/-! ## The conversions, checked -/

namespace MatterMicros

/-- `MATTER_EPOCH_UNIX_MICROS`, computed in `i64`. -/
def epoch? : Option Int := signed? 64 (matterEpochUnixSeconds * 1000000)

/-- `from_timestamp`: the microseconds of an instant are an `i64`, and so is their distance from the
epoch. -/
def fromTimestamp? (at_ : Timestamp) : Option MatterMicros := do
  let epoch ← epoch?
  let unixMicros ← signed? 64 at_.asMicrosecond
  let micros ← signed? 64 (unixMicros - epoch)
  return (tryFrom micros).getD zero

/-- `to_timestamp`: `try_from` and `checked_add` refuse what does not fit, and only an `i64` is handed on to
`from_microsecond`. -/
def toTimestamp? (fromMicrosecond : Int → Option Timestamp) (m : MatterMicros) : Option (Option Timestamp) := do
  let epoch ← epoch?
  match (i64TryFrom m.micros).bind fun micros => i64TryFrom (micros + epoch) with
  | none => return none
  | some micros =>
    let argument ← signed? 64 micros
    return fromMicrosecond argument

theorem epoch?_eq : epoch? = some matterEpochUnixMicros := rfl

theorem fromTimestamp?_eq (t : Timestamp) : fromTimestamp? t = some (fromTimestamp t) := by
  have hmin := t.min_le
  have hmax := t.le_max
  have hmicros : -2 ^ (64 - 1) ≤ t.asMicrosecond ∧ t.asMicrosecond < 2 ^ (64 - 1) := by
    rw [Timestamp.asMicrosecond_eq]
    unfold minNanos maxNanos at *
    split <;> omega
  have hdistance : -2 ^ (64 - 1) ≤ t.asMicrosecond - matterEpochUnixMicros ∧
      t.asMicrosecond - matterEpochUnixMicros < 2 ^ (64 - 1) := by
    rw [Timestamp.asMicrosecond_eq] at *
    unfold minNanos maxNanos matterEpochUnixMicros matterEpochUnixSeconds at *
    split <;> omega
  unfold fromTimestamp?
  rw [epoch?_eq, Option.bind_eq_bind, Option.bind_some, signed?_eq hmicros]
  show (signed? 64 (t.asMicrosecond - matterEpochUnixMicros)).bind _ = _
  rw [signed?_eq hdistance]
  rfl

theorem i64TryFrom_eq_some {x y : Int} (h : i64TryFrom x = some y) :
    x = y ∧ -2 ^ (64 - 1) ≤ y ∧ y < 2 ^ (64 - 1) := by
  unfold i64TryFrom i64Min i64Max at h
  split at h
  · rename_i hrange
    obtain rfl := Option.some.inj h
    exact ⟨rfl, by omega⟩
  · cases h

theorem toTimestamp?_eq (ext : Externals) (m : MatterMicros) :
    m.toTimestamp? ext.fromMicrosecond = some (m.toTimestamp ext.fromMicrosecond) := by
  unfold toTimestamp? toTimestamp
  rw [epoch?_eq, Option.bind_eq_bind, Option.bind_some]
  split
  · rename_i hnone
    rw [hnone]
    rfl
  · rename_i micros hsome
    obtain ⟨x, -, hx⟩ := Option.bind_eq_some_iff.mp hsome
    rw [hsome, signed?_eq (i64TryFrom_eq_some hx).2]
    rfl

/-! ## There and back -/

/-- The last Matter time that converts: 9999-12-30T22:00:00Z, the last whole second of the range. -/
def lastConvertible : Nat := 252455522400000000

section Externals

variable (ext : Externals)

/-- The conversion in one step: the two 64-bit checks refuse nothing that the range check would take. -/
theorem toTimestamp_eq (m : MatterMicros) :
    m.toTimestamp ext.fromMicrosecond = ext.fromMicrosecond (m.micros + matterEpochUnixMicros) := by
  have hu64 := m.isU64
  unfold toTimestamp
  by_cases hfits : (m.micros : Int) + matterEpochUnixMicros ≤ i64Max
  · have hmicros : i64TryFrom m.micros = some (m.micros : Int) := by
      unfold i64TryFrom i64Min i64Max matterEpochUnixMicros matterEpochUnixSeconds at *
      exact if_pos (by omega)
    have hsum : i64TryFrom (m.micros + matterEpochUnixMicros) =
        some ((m.micros : Int) + matterEpochUnixMicros) := by
      unfold i64TryFrom i64Min i64Max matterEpochUnixMicros matterEpochUnixSeconds at *
      exact if_pos (by omega)
    rw [hmicros, Option.bind_some, hsum, Option.bind_some]
  · -- beyond `i64`, and so beyond the last instant by far
    have hrefused : ext.fromMicrosecond (m.micros + matterEpochUnixMicros) = none := by
      rw [← Option.not_isSome_iff_eq_none, ext.fromMicrosecond_range]
      unfold i64Max maxMicros matterEpochUnixMicros matterEpochUnixSeconds at *
      omega
    rw [hrefused, Option.bind_eq_none_iff]
    intro micros hmicros
    obtain ⟨x, hx, hsum⟩ := Option.bind_eq_some_iff.mp hmicros
    obtain ⟨hxm, -⟩ := i64TryFrom_eq_some hx
    obtain ⟨hsum, -, hlt⟩ := i64TryFrom_eq_some hsum
    unfold i64Max at hfits
    omega

theorem toTimestamp_isSome_iff (m : MatterMicros) :
    (m.toTimestamp ext.fromMicrosecond).isSome = true ↔ m.micros ≤ lastConvertible := by
  rw [toTimestamp_eq, ext.fromMicrosecond_range]
  unfold minMicros maxMicros lastConvertible matterEpochUnixMicros matterEpochUnixSeconds
  omega

variable {ext}

/-- The instant a Matter time converts to is the one it denotes. -/
theorem nanos_of_toTimestamp {m : MatterMicros} {t : Timestamp}
    (h : m.toTimestamp ext.fromMicrosecond = some t) : t.nanos = m.unixNanos := by
  rw [toTimestamp_eq] at h
  rw [ext.fromMicrosecond_exact h]
  unfold unixNanos matterEpochUnixMicros
  ring

theorem fromTimestamp_toTimestamp {m : MatterMicros} {t : Timestamp}
    (h : m.toTimestamp ext.fromMicrosecond = some t) : fromTimestamp t = m := by
  have hnanos := nanos_of_toTimestamp h
  have hback := fromTimestamp_micros t
  unfold unixNanos at hnanos
  rw [Timestamp.asMicrosecond_eq] at hback
  unfold matterEpochUnixMicros matterEpochUnixSeconds at *
  apply MatterMicros.ext
  split at hback <;> omega

/-- An instant since the Matter epoch comes back, unless only its nanoseconds are within the range. -/
theorem toTimestamp_fromTimestamp_iff {t : Timestamp} (h : t.SinceMatterEpoch) :
    (fromTimestamp t).toTimestamp ext.fromMicrosecond = some t.truncated ↔ t.asMicrosecond ≤ maxMicros := by
  have hmicros := fromTimestamp_of_sinceEpoch h
  have hpos : 0 ≤ t.nanos := by
    unfold Timestamp.SinceMatterEpoch matterEpochUnixSeconds at h
    omega
  have hsum : ((fromTimestamp t).micros : Int) + matterEpochUnixMicros = t.asMicrosecond := by
    rw [hmicros, Timestamp.asMicrosecond_of_nonneg hpos]
    omega
  rw [toTimestamp_eq, hsum]
  constructor
  · intro hsome
    exact ((ext.fromMicrosecond_range _).mp (by rw [hsome]; rfl)).2
  · intro hmax
    have hmin : minMicros ≤ t.asMicrosecond := by
      rw [Timestamp.asMicrosecond_of_nonneg hpos]
      unfold minMicros
      omega
    exact ext.fromMicrosecond_eq_some ⟨hmin, hmax⟩ rfl

end Externals

theorem monotone_fromTimestamp : Monotone fromTimestamp := by
  intro s t hst
  rw [le_def]
  exact fromTimestamp_mono hst

/-- What is clamped, and the first microsecond. -/
theorem fromTimestamp_eq_zero_iff (t : Timestamp) :
    fromTimestamp t = zero ↔ t.nanos < matterEpochUnixSeconds * 1000000000 + 1000 := by
  have hmicros := fromTimestamp_micros t
  rw [Timestamp.asMicrosecond_eq] at hmicros
  rw [MatterMicros.ext_iff]
  show (fromTimestamp t).micros = 0 ↔ _
  unfold matterEpochUnixMicros matterEpochUnixSeconds at *
  split at hmicros <;> omega

/-- **Matter time and instants convert without loss**, but for what is left of the last second.  A Matter time
converts exactly up to the last whole second of the range, to the instant it denotes, and comes back unchanged;
an instant since the Matter epoch comes back truncated to microseconds exactly up to that second; the clamped
conversion is monotone and 0 exactly before the first microsecond after the epoch; and no intermediate result
leaves `i64`. -/
theorem conversions_exact (ext : Externals) (m : MatterMicros) (t : Timestamp) :
    ((m.toTimestamp ext.fromMicrosecond).isSome = true ↔ m.micros ≤ lastConvertible) ∧
    (∀ at_, m.toTimestamp ext.fromMicrosecond = some at_ → at_.nanos = m.unixNanos ∧ fromTimestamp at_ = m) ∧
    (t.SinceMatterEpoch →
      ((fromTimestamp t).toTimestamp ext.fromMicrosecond = some t.truncated ↔ t.asMicrosecond ≤ maxMicros)) ∧
    Monotone fromTimestamp ∧
    (fromTimestamp t = zero ↔ t.nanos < matterEpochUnixSeconds * 1000000000 + 1000) ∧
    (fromTimestamp? t = some (fromTimestamp t) ∧
      m.toTimestamp? ext.fromMicrosecond = some (m.toTimestamp ext.fromMicrosecond)) :=
  ⟨toTimestamp_isSome_iff ext m, fun _ h => ⟨nanos_of_toTimestamp h, fromTimestamp_toTimestamp h⟩,
    toTimestamp_fromTimestamp_iff, monotone_fromTimestamp, fromTimestamp_eq_zero_iff t, fromTimestamp?_eq t,
    toTimestamp?_eq ext m⟩

/-- A microsecond into the last second of the range. -/
def lastSecond : MatterMicros := ⟨252455522400000001, by decide⟩

/-- **The last second does not convert**, though it is within the range of instants. -/
theorem last_second_refused :
    ¬ ((lastSecond.toTimestamp reference.fromMicrosecond).isSome = true ↔
      minNanos ≤ lastSecond.unixNanos ∧ lastSecond.unixNanos ≤ maxNanos) := by
  have within : minNanos ≤ lastSecond.unixNanos ∧ lastSecond.unixNanos ≤ maxNanos := by decide
  rw [toTimestamp_isSome_iff]
  intro h
  exact absurd (h.mpr within) (by decide)

end MatterMicros

end MatterTimeCtl
