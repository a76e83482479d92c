/-
# MatterTimeCtl.ClockArithmetic — the clock comparison at the widths of its types.

`MatterTimeCtl.Time` computes in ℤ.  The code computes in `u64`, `i64` and `i128`, where an operation whose
exact result does not fit overflows.  Here the comparison is written once more with every intermediate
result checked against its type; no check ever fails, so that ℤ is the right place to compute in
(`compare?_eq`), and the rest of what the comparison and the read-back check promise is linear
arithmetic.
-/
import MatterTimeCtl.Controller.Ops

namespace MatterTimeCtl

/-! ## Arithmetic at fixed width -/

/-- The exact result as a signed integer of so many bits, `none` when it overflows. -/
def signed? (bits : Nat) (x : Int) : Option Int :=
  if -2 ^ (bits - 1) ≤ x ∧ x < 2 ^ (bits - 1) then some x else none

/-- The exact result as an unsigned integer of so many bits, `none` when it overflows. -/
def unsigned? (bits : Nat) (x : Int) : Option Nat :=
  if 0 ≤ x ∧ x < 2 ^ bits then some x.toNat else none

theorem signed?_eq {bits : Nat} {x : Int} (h : -2 ^ (bits - 1) ≤ x ∧ x < 2 ^ (bits - 1)) :
    signed? bits x = some x := if_pos h

theorem unsigned?_natAbs {bits : Nat} {x : Int} (h : x.natAbs < 2 ^ bits) :
    unsigned? bits x.natAbs = some x.natAbs := by
  unfold unsigned?
  rw [if_pos ⟨Int.natCast_nonneg _, by exact_mod_cast h⟩, Int.toNat_natCast]

theorem clampI64_range (x : Int) : -2 ^ 63 ≤ clampI64 x ∧ clampI64 x < 2 ^ 63 := by
  unfold clampI64 i64Min i64Max
  omega

/-- Clamped, a number is one of `i64`, and at most `2 ^ 63` away from 0. -/
theorem signed?_clampI64 (x : Int) : signed? 64 (clampI64 x) = some (clampI64 x) :=
  signed?_eq (clampI64_range x)

theorem unsigned?_clampI64 (x : Int) :
    unsigned? 64 (clampI64 x).natAbs = some (clampI64 x).natAbs := by
  apply unsigned?_natAbs
  have h := clampI64_range x
  omega

/-! ## The comparison, checked -/

/-- `delta_micros`: the difference in `i128`, clamped and then cut to `i64`. -/
def MatterMicros.deltaMicros? (self other : MatterMicros) : Option Int := do
  let difference ← signed? 128 ((self.micros : Int) - other.micros)
  signed? 64 (clampI64 difference)

namespace ClockAssessment

/-- `compare`: the saturated shift error is an `i64`, its magnitude a `u64`. -/
def compare? (device : Option MatterMicros) (host : MatterMicros) : Option ClockAssessment :=
  match device with
  | none => some .unset
  | some device => do
    let deltaMicros ← device.deltaMicros? host
    let shiftError ← signed? 64 (saturatingSub deltaMicros matterEpochUnixMicros)
    let magnitude ← unsigned? 64 shiftError.natAbs
    return .offset deltaMicros (decide ((magnitude : Int) ≤ epochShiftDetectionWindowMicros))

/-- `effective_delta_micros`: what is folded out is saturated too. -/
def effectiveDeltaMicros? : ClockAssessment → Option (Option Int)
  | .unset => some none
  | .offset deltaMicros epochShifted =>
    if epochShifted then some <$> signed? 64 (saturatingSub deltaMicros matterEpochUnixMicros)
    else some (some deltaMicros)

end ClockAssessment

/-- Two unsigned 64-bit numbers differ by a signed 128-bit one, with room to spare. -/
theorem MatterMicros.deltaMicros?_eq (d h : MatterMicros) : d.deltaMicros? h = some (d.deltaMicros h) := by
  have hd := d.isU64
  have hh := h.isU64
  have fits : -2 ^ (128 - 1) ≤ (d.micros : Int) - h.micros ∧ (d.micros : Int) - h.micros < 2 ^ (128 - 1) := by
    omega
  unfold deltaMicros?
  rw [signed?_eq fits]
  exact signed?_clampI64 _

namespace ClockAssessment

theorem compare?_eq (device : Option MatterMicros) (host : MatterMicros) :
    compare? device host = some (compare device host) := by
  cases device with
  | none => rfl
  | some device =>
      have shiftError : signed? 64 (saturatingSub (device.deltaMicros host) matterEpochUnixMicros) =
          some (saturatingSub (device.deltaMicros host) matterEpochUnixMicros) := signed?_clampI64 _
      have magnitude : unsigned? 64 (saturatingSub (device.deltaMicros host) matterEpochUnixMicros).natAbs =
          some (saturatingSub (device.deltaMicros host) matterEpochUnixMicros).natAbs :=
        unsigned?_clampI64 _
      show (device.deltaMicros? host).bind _ = _
      rw [MatterMicros.deltaMicros?_eq, Option.bind_some]
      show (signed? 64 _).bind _ = _
      rw [shiftError, Option.bind_some]
      show (unsigned? 64 _).bind _ = _
      rw [magnitude, Option.bind_some]
      rfl

theorem effectiveDeltaMicros?_eq (a : ClockAssessment) :
    a.effectiveDeltaMicros? = some a.effectiveDeltaMicros := by
  cases a with
  | unset => rfl
  | offset deltaMicros epochShifted =>
      simp only [effectiveDeltaMicros?, effectiveDeltaMicros, saturatingSub, signed?_clampI64]
      cases epochShifted <;> rfl

theorem isEpochShifted_offset (deltaMicros : Int) (epochShifted : Bool) :
    (offset deltaMicros epochShifted).isEpochShifted = epochShifted := by
  cases epochShifted <;> rfl

/-- An epoch shift is a difference within a week of the epoch distance, in ℤ. -/
theorem isEpochShifted_iff (d h : MatterMicros) : (compare (some d) h).isEpochShifted = true ↔
    (((d.micros : Int) - h.micros - matterEpochUnixMicros).natAbs : Int) ≤
      epochShiftDetectionWindowMicros := by
  rw [compare_eq, isEpochShifted_offset, decide_eq_true_eq]

theorem effectiveDeltaMicros_eq (d h : MatterMicros) : (compare (some d) h).effectiveDeltaMicros =
    some (if (compare (some d) h).isEpochShifted then (d.micros : Int) - h.micros - matterEpochUnixMicros
      else clampI64 ((d.micros : Int) - h.micros)) := by
  rw [effectiveDeltaMicros_compare]
  simp only [isEpochShifted_iff]

end ClockAssessment

/-! ## The read-back check -/

/-- What `verifyClock` makes of a reading. -/
def judgeReadBack (after : Option MatterMicros) (utcWrite : MatterMicros) : Action ClockAssessment := do
  let afterAssessment := ClockAssessment.compare after utcWrite
  if !afterAssessment.withinTolerance verifyToleranceMicros then
    throw (.message ("read-back verification failed: " ++ afterAssessment.display))
  return afterAssessment

theorem verifyClock_eq (ext : Externals) (ctx : Ctx) (nodeId : NodeId) (utcWrite : MatterMicros) :
    verifyClock ext ctx nodeId utcWrite =
      request ext ctx nodeId .utcTimeRead "read-back utcTime" >>= fun after =>
        judgeReadBack after utcWrite := rfl

/-- The reading is accepted. -/
def AcceptsReadBack (after : Option MatterMicros) (utcWrite : MatterMicros) : Prop :=
  ∃ assessment, (judgeReadBack after utcWrite).run = .done (.ok assessment)

theorem acceptsReadBack_iff_within (after : Option MatterMicros) (utcWrite : MatterMicros) :
    AcceptsReadBack after utcWrite ↔
      (ClockAssessment.compare after utcWrite).withinTolerance verifyToleranceMicros = true := by
  unfold AcceptsReadBack judgeReadBack
  dsimp only
  split
  · rename_i refused
    rw [Bool.not_eq_true'] at refused
    rw [refused]
    simp only [Bool.false_eq_true, iff_false]
    rintro ⟨a, ha⟩
    cases ha
  · rename_i accepted
    rw [Bool.not_eq_true', Bool.not_eq_false] at accepted
    exact iff_of_true ⟨_, rfl⟩ accepted

/-- **The clock comparison in exact arithmetic.**  Nothing overflows; an epoch shift is a difference within a
week of the epoch distance; the effective delta has exactly that distance folded out, and is clamped
otherwise; and the read-back is accepted within five seconds of what was written, with or without it. -/
theorem clock_comparison_exact (ext : Externals) (ctx : Ctx) (nodeId : NodeId) (d h : MatterMicros) :
    (d.deltaMicros? h = some (clampI64 ((d.micros : Int) - h.micros)) ∧
      ClockAssessment.compare? (some d) h = some (.compare (some d) h) ∧
      (ClockAssessment.compare (some d) h).effectiveDeltaMicros? =
        some (ClockAssessment.compare (some d) h).effectiveDeltaMicros) ∧
    ((ClockAssessment.compare (some d) h).isEpochShifted = true ↔
      (((d.micros : Int) - h.micros - matterEpochUnixMicros).natAbs : Int) ≤ 7 * 86400 * 1000000) ∧
    (ClockAssessment.compare (some d) h).effectiveDeltaMicros =
      some (if (ClockAssessment.compare (some d) h).isEpochShifted
        then (d.micros : Int) - h.micros - matterEpochUnixMicros
        else clampI64 ((d.micros : Int) - h.micros)) ∧
    verifyClock ext ctx nodeId h = (request ext ctx nodeId .utcTimeRead "read-back utcTime" >>= fun after =>
      judgeReadBack after h) ∧
    (AcceptsReadBack (some d) h ↔
      (((d.micros : Int) - h.micros).natAbs : Int) ≤ 5000000 ∨
      (((d.micros : Int) - h.micros - matterEpochUnixMicros).natAbs : Int) ≤ 5000000) := by
  refine ⟨⟨d.deltaMicros?_eq h, ClockAssessment.compare?_eq (some d) h,
      ClockAssessment.effectiveDeltaMicros?_eq _⟩, ClockAssessment.isEpochShifted_iff d h,
    ClockAssessment.effectiveDeltaMicros_eq d h, verifyClock_eq ext ctx nodeId h, ?_⟩
  have tolerated : verifyToleranceMicros ≤ epochShiftDetectionWindowMicros := by decide
  rw [acceptsReadBack_iff_within]
  exact ClockAssessment.withinTolerance_iff d h tolerated

end MatterTimeCtl
