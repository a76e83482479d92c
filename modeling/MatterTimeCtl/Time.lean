/-
# MatterTimeCtl.Time — Matter epoch conversion and device clock assessment.

Matter UTC time is microseconds since 2000-01-01T00:00:00Z, carried as a 64-bit unsigned number;
everything else in the program is a `Timestamp`, nanoseconds since the Unix epoch within the years
-9999 to 9999.  Both types carry their range as a field, so neither an out-of-range instant nor a
65-bit Matter time can be built, and the conversions between them are the only places where a
value is clamped or refused.

`ClockAssessment` compares a device clock with a reference.  Its arithmetic saturates at the `i64`
limits twice; `compare_eq` and `effectiveDeltaMicros_compare` say in exact integer arithmetic what
comes out, and `withinTolerance_iff` is the acceptance window that the read-back check rests on.
-/
import Mathlib

namespace MatterTimeCtl

/-! ## Instants -/

/-- The first representable instant, -9999-01-02T01:59:59Z. -/
def minNanos : Int := -377705023201 * 1000000000

/-- The last representable instant, 9999-12-30T22:00:00.999999999Z. -/
def maxNanos : Int := 253402207200 * 1000000000 + 999999999

/-- The first number of microseconds that makes an instant. -/
def minMicros : Int := -377705023201 * 1000000

/-- The last number of microseconds that makes an instant: that of the last whole second.  What is left of that
second can be reached in nanoseconds only. -/
def maxMicros : Int := 253402207200 * 1000000

/-- An instant: nanoseconds since the Unix epoch, within the representable range. -/
@[ext]
structure Timestamp where
  nanos : Int
  min_le : minNanos ≤ nanos
  le_max : nanos ≤ maxNanos
  deriving DecidableEq

namespace Timestamp

theorem nanos_injective : Function.Injective Timestamp.nanos := fun _ _ h => Timestamp.ext h

instance : LinearOrder Timestamp := LinearOrder.lift' Timestamp.nanos nanos_injective

theorem le_def {s t : Timestamp} : s ≤ t ↔ s.nanos ≤ t.nanos := Iff.rfl

theorem lt_def {s t : Timestamp} : s < t ↔ s.nanos < t.nanos := Iff.rfl

/-- The range has a last instant, so a strictly increasing sequence of instants is finite. -/
instance : WellFoundedGT Timestamp where
  wf := by
    refine Subrelation.wf (r := fun s t : Timestamp => (maxNanos - s.nanos).toNat <
      (maxNanos - t.nanos).toNat) ?_ (measure fun t : Timestamp => (maxNanos - t.nanos).toNat).wf
    intro s t hst
    have hlt : t.nanos < s.nanos := hst
    have hs := s.le_max
    omega

/-- The instant a number of nanoseconds from the Unix epoch, when representable. -/
def ofNanos? (n : Int) : Option Timestamp :=
  if h : minNanos ≤ n ∧ n ≤ maxNanos then some ⟨n, h.1, h.2⟩ else none

theorem ofNanos?_nanos (t : Timestamp) : ofNanos? t.nanos = some t := by
  rw [ofNanos?, dif_pos ⟨t.min_le, t.le_max⟩]

/-- Microseconds since the Unix epoch, truncated towards zero. -/
def asMicrosecond (t : Timestamp) : Int := t.nanos.tdiv 1000

theorem asMicrosecond_of_nonneg {t : Timestamp} (h : 0 ≤ t.nanos) :
    t.asMicrosecond = t.nanos / 1000 :=
  Int.tdiv_eq_ediv_of_nonneg h

theorem asMicrosecond_of_neg {t : Timestamp} (h : t.nanos < 0) : t.asMicrosecond ≤ 0 := by
  have hneg : 0 ≤ (-t.nanos).tdiv 1000 := Int.tdiv_nonneg (by omega) (by decide)
  rw [Int.neg_tdiv] at hneg
  unfold asMicrosecond
  omega

theorem asMicrosecond_mono {s t : Timestamp} (h : s ≤ t) : s.asMicrosecond ≤ t.asMicrosecond :=
  Int.tdiv_le_tdiv (by decide) h

/-- The UTC second an instant lies in. -/
def asSecond (t : Timestamp) : Int := t.nanos / 1000000000

end Timestamp

/-! ## 64-bit conversions -/

/-- `i64::MIN`. -/
def i64Min : Int := -2 ^ 63
/-- `i64::MAX`. -/
def i64Max : Int := 2 ^ 63 - 1

/-- `i64::try_from`. -/
def i64TryFrom (x : Int) : Option Int := if i64Min ≤ x ∧ x ≤ i64Max then some x else none

/-- Clamping to the `i64` range; with it, saturating subtraction. -/
def clampI64 (x : Int) : Int := max i64Min (min i64Max x)

/-- `i64::saturating_sub`. -/
def saturatingSub (x y : Int) : Int := clampI64 (x - y)

/-! ## Matter time -/

/-- 2000-01-01T00:00:00Z. -/
def matterEpochUnixSeconds : Int := 946684800
def matterEpochUnixMicros : Int := matterEpochUnixSeconds * 1000000

/-- Microseconds since the Matter epoch, as carried on the wire. -/
@[ext]
structure MatterMicros where
  micros : Nat
  isU64 : micros < 2 ^ 64
  deriving DecidableEq

namespace MatterMicros

/-- `u64::try_from`. -/
def tryFrom (x : Int) : Option MatterMicros :=
  if h : 0 ≤ x ∧ x < 2 ^ 64 then some ⟨x.toNat, by omega⟩ else none

/-- The Matter epoch. -/
def zero : MatterMicros := ⟨0, by decide⟩

/-- A host clock before the Matter epoch clamps to 0. -/
def fromTimestamp (at_ : Timestamp) : MatterMicros :=
  (tryFrom (at_.asMicrosecond - matterEpochUnixMicros)).getD zero

/-- `none` when the value is more than `from_microsecond` takes. -/
def toTimestamp (fromMicrosecond : Int → Option Timestamp) (m : MatterMicros) : Option Timestamp :=
  ((i64TryFrom m.micros).bind fun micros => i64TryFrom (micros + matterEpochUnixMicros)).bind fromMicrosecond

/-- Signed difference, saturating at the `i64` limits. -/
def deltaMicros (self other : MatterMicros) : Int := clampI64 ((self.micros : Int) - other.micros)

theorem fromTimestamp_micros (t : Timestamp) :
    ((fromTimestamp t).micros : Int) = max 0 (t.asMicrosecond - matterEpochUnixMicros) := by
  have hlt : t.asMicrosecond < 2 ^ 63 := by
    have hmax := t.le_max
    unfold maxNanos at hmax
    rcases lt_or_ge t.nanos 0 with hneg | hpos
    · have h := Timestamp.asMicrosecond_of_neg hneg
      omega
    · rw [Timestamp.asMicrosecond_of_nonneg hpos]
      omega
  unfold fromTimestamp tryFrom
  split <;> simp only [Option.getD_some, Option.getD_none, zero]
  all_goals
    unfold matterEpochUnixMicros matterEpochUnixSeconds at *
    omega

theorem fromTimestamp_mono {s t : Timestamp} (h : s ≤ t) :
    (fromTimestamp s).micros ≤ (fromTimestamp t).micros := by
  have hs := fromTimestamp_micros s
  have ht := fromTimestamp_micros t
  have hmicros := Timestamp.asMicrosecond_mono h
  omega

end MatterMicros

/-! ## Clock assessment -/

/-- How far from the exact epoch distance a delta may be to count as an epoch shift: a week. -/
def epochShiftDetectionWindowMicros : Int := 7 * 86400 * 1000000

/-- How the device's reported clock relates to the reference clock. -/
inductive ClockAssessment where
  /-- The device lost its clock (null utcTime). -/
  | unset
  /-- The raw delta, device minus reference, and whether it is the Unix/Matter epoch distance. -/
  | offset (deltaMicros : Int) (epochShifted : Bool)
  deriving DecidableEq

namespace ClockAssessment

/-- The assessment of a device's clock against a reference; the Unix epoch shift has a window of its own. -/
def compare (device : Option MatterMicros) (host : MatterMicros) : ClockAssessment :=
  match device with
  | none => .unset
  | some device =>
    let deltaMicros := device.deltaMicros host
    let shiftError := saturatingSub deltaMicros matterEpochUnixMicros
    .offset deltaMicros (decide ((shiftError.natAbs : Int) ≤ epochShiftDetectionWindowMicros))

/-- The raw delta with a detected epoch shift folded out; `none` when the clock was unset. -/
def effectiveDeltaMicros : ClockAssessment → Option Int
  | .unset => none
  | .offset deltaMicros epochShifted =>
    some (if epochShifted then saturatingSub deltaMicros matterEpochUnixMicros else deltaMicros)

/-- Whether the device counts from the Unix epoch. -/
def isEpochShifted : ClockAssessment → Bool
  | .offset _ true => true
  | _ => false

end ClockAssessment

/-! ## Rendering -/

/-- Compact human duration: `412ms`, `3.2s`, `1m 23s`, `1d 1h 1m`. -/
def compactDuration (micros : Nat) : String :=
  if micros < 1000 then toString micros ++ "us"
  else if micros < 1000000 then toString (micros / 1000) ++ "ms"
  else
    let totalSeconds := micros / 1000000
    if totalSeconds < 60 then
      let tenths := (micros % 1000000) / 100000
      if tenths = 0 then toString totalSeconds ++ "s"
      else toString totalSeconds ++ "." ++ toString tenths ++ "s"
    else
      let days := totalSeconds / 86400
      let hours := (totalSeconds % 86400) / 3600
      let minutes := (totalSeconds % 3600) / 60
      let seconds := totalSeconds % 60
      let parts : List (Option String) :=
        [ if days > 0 then some (toString days ++ "d") else none,
          if hours > 0 then some (toString hours ++ "h") else none,
          if minutes > 0 then some (toString minutes ++ "m") else none,
          -- Seconds are dropped once days appear.
          if seconds > 0 ∧ days = 0 then some (toString seconds ++ "s") else none ]
      " ".intercalate (parts.filterMap id)

/-- `within 1s of host time (412ms behind)`, `1m 23s ahead`. -/
def describeDelta (delta : Int) : String :=
  let magnitude := delta.natAbs
  let direction := if delta < 0 then "behind" else "ahead"
  if magnitude < 1000000 then
    "within 1s of host time (" ++ compactDuration magnitude ++ " " ++ direction ++ ")"
  else compactDuration magnitude ++ " " ++ direction

/-- The sentence for the report. -/
def ClockAssessment.display (a : ClockAssessment) : String :=
  match a, a.effectiveDeltaMicros with
  | .offset _ true, some effective =>
    "device encodes Unix-epoch time on the wire (off-spec); corrected, its clock was " ++
      describeDelta effective
  | .offset _ false, some effective => "device clock was " ++ describeDelta effective
  | _, _ => "device clock was unset"

/-- An instant where representable, else the raw value, labelled. -/
def MatterMicros.display (fromMicrosecond : Int → Option Timestamp) (render : Timestamp → String)
    (m : MatterMicros) : String :=
  match m.toTimestamp fromMicrosecond with
  | some timestamp => render timestamp
  | none => toString m.micros ++ "us-since-matter-epoch(out-of-range)"

/-! ## What the comparison accepts -/

namespace ClockAssessment

/-- The comparison in exact arithmetic: the delta is clamped, and an epoch shift is a delta within a
week of the epoch distance (no clamped delta is). -/
theorem compare_eq (d h : MatterMicros) :
    compare (some d) h = .offset (clampI64 ((d.micros : Int) - h.micros))
      (decide ((((d.micros : Int) - h.micros - matterEpochUnixMicros).natAbs : Int) ≤
        epochShiftDetectionWindowMicros)) := by
  have hd := d.isU64
  have hh := h.isU64
  unfold compare MatterMicros.deltaMicros
  simp only [offset.injEq, true_and, decide_eq_decide]
  unfold saturatingSub clampI64 i64Min i64Max matterEpochUnixMicros matterEpochUnixSeconds
    epochShiftDetectionWindowMicros
  omega

/-- The effective delta in exact arithmetic. -/
theorem effectiveDeltaMicros_compare (d h : MatterMicros) :
    (compare (some d) h).effectiveDeltaMicros =
      some (if ((((d.micros : Int) - h.micros - matterEpochUnixMicros).natAbs : Int) ≤
          epochShiftDetectionWindowMicros)
        then (d.micros : Int) - h.micros - matterEpochUnixMicros
        else clampI64 ((d.micros : Int) - h.micros)) := by
  rw [compare_eq, effectiveDeltaMicros]
  simp only [decide_eq_true_eq]
  split
  · rename_i hwin
    congr 1
    unfold saturatingSub clampI64 i64Min i64Max
    unfold matterEpochUnixMicros matterEpochUnixSeconds epochShiftDetectionWindowMicros at *
    omega
  · rfl

/-- The effective delta is present and at most `tolerance` in magnitude. -/
def withinTolerance (a : ClockAssessment) (tolerance : Int) : Bool :=
  match a.effectiveDeltaMicros with
  | none => false
  | some d => decide ((d.natAbs : Int) ≤ tolerance)

/-- **The acceptance window.**  For a tolerance of up to a week, a reading is accepted exactly when it
is within the tolerance of the reference, or of the reference shifted by the epoch distance. -/
theorem withinTolerance_iff (d h : MatterMicros) {tolerance : Int}
    (htol : tolerance ≤ epochShiftDetectionWindowMicros) :
    (compare (some d) h).withinTolerance tolerance = true ↔
      (((d.micros : Int) - h.micros).natAbs : Int) ≤ tolerance ∨
      (((d.micros : Int) - h.micros - matterEpochUnixMicros).natAbs : Int) ≤ tolerance := by
  rw [withinTolerance, effectiveDeltaMicros_compare]
  simp only [decide_eq_true_eq]
  unfold clampI64 i64Min i64Max
  unfold matterEpochUnixMicros matterEpochUnixSeconds epochShiftDetectionWindowMicros at *
  split <;> omega

end ClockAssessment

end MatterTimeCtl
