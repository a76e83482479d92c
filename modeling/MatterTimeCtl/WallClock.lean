/-
# MatterTimeCtl.WallClock — wall-clock times and the instants that show them.

`parseWallClock` reads an operator-typed time: 24-hour `HH:MM[:SS]` or 12-hour with an `a`/`p`/`am`/`pm`
suffix.  A civil time in a zone is a number of local seconds since 1970-01-01T00:00; an instant shows it
when the zone's offset at that instant takes the instant there.
-/
import MatterTimeCtl.Tz
import MatterTimeCtl.Text.Unsigned

namespace MatterTimeCtl

open Text

/-! ## Steps that can fail -/

/-- One after the other. -/
theorem bind_eq_ok_iff {ε α β : Type} {x : Except ε α} {f : α → Except ε β} {b : β} :
    (x >>= f) = .ok b ↔ ∃ a, x = .ok a ∧ f a = .ok b := by
  constructor
  · intro h
    cases x with
    | ok a => exact ⟨a, rfl, h⟩
    | error e => cases h
  · rintro ⟨a, rfl, h⟩
    exact h

theorem mapError_eq_ok_iff {ε ε' α : Type} {f : ε → ε'} {x : Except ε α} {a : α} :
    x.mapError f = .ok a ↔ x = .ok a := by
  cases x with
  | ok b => exact Except.ok.injEq b a ▸ Except.ok.injEq b a ▸ Iff.rfl
  | error e => exact ⟨fun h => (by cases h), fun h => (by cases h)⟩

/-! ## Parsing -/

/-- A time of day. -/
@[ext]
structure CivilTime where
  hour : Nat
  minute : Nat
  second : Nat
  hour_lt : hour < 24
  minute_lt : minute < 60
  second_lt : second < 60
  deriving DecidableEq

/-- `as i8` of a `u8`. -/
def asI8 (n : Nat) : Int := if n < 128 then n else n - 256

/-- A civil time, range-checked. -/
def CivilTime.new? (hour minute second : Int) : Option CivilTime :=
  if h : (0 ≤ hour ∧ hour < 24) ∧ (0 ≤ minute ∧ minute < 60) ∧ 0 ≤ second ∧ second < 60 then
    some ⟨hour.toNat, minute.toNat, second.toNat, by omega, by omega, by omega⟩
  else none

/-- Why an input is no wall-clock time. -/
inductive WallClockError where
  | format (input : String)
  | number (part input : String)
  | hour (input what : String)
  /-- The library takes no such time. -/
  | range (input : String) (hour minute second : Int)
  deriving DecidableEq

/-- The Unicode White_Space property. -/
def isWhitespace (c : Char) : Bool :=
  let n := c.toNat
  (9 ≤ n && n ≤ 13) || n = 0x20 || n = 0x85 || n = 0xA0 || n = 0x1680 ||
    (0x2000 ≤ n && n ≤ 0x200A) || n = 0x2028 || n = 0x2029 || n = 0x202F || n = 0x205F || n = 0x3000

/-- `str::trim_end`. -/
def trimEnd (cs : List Char) : List Char := (cs.reverse.dropWhile isWhitespace).reverse

/-- `str::trim`. -/
def trim (cs : List Char) : List Char := trimEnd (cs.dropWhile isWhitespace)

/-- `str::strip_suffix`. -/
def stripSuffix (suffix cs : List Char) : Option (List Char) :=
  if suffix.isSuffixOf cs then some (cs.take (cs.length - suffix.length)) else none

/-- The digits and, when there is a suffix, whether it says afternoon.  A bare `a` is tried before
`pm`, as in `strip_suffix("am").or_else(strip_suffix('a'))`. -/
def splitMeridiem (lowered : List Char) : List Char × Option Bool :=
  match (stripSuffix ['a', 'm'] lowered).or (stripSuffix ['a'] lowered) with
  | some rest => (trimEnd rest, some false)
  | none =>
    match (stripSuffix ['p', 'm'] lowered).or (stripSuffix ['p'] lowered) with
    | some rest => (trimEnd rest, some true)
    | none => (lowered, none)

/-- The hour on the 24-hour clock. -/
def hour24 (meridiem : Option Bool) (hour : Nat) : Except String Nat :=
  match meridiem with
  | some afternoon =>
    if 1 ≤ hour ∧ hour ≤ 12 then .ok (if afternoon then hour % 12 + 12 else hour % 12)
    else .error "must be 1-12 with am/pm"
  | none => if hour > 23 then .error "must be 0-23" else .ok hour

/-- Parse an operator-typed wall-clock time. -/
def parseWallClock (input : String) : Except WallClockError CivilTime := do
  let (digits, meridiem) := splitMeridiem ((trim input.toList).map Char.toLower)
  let parts := digits.splitOn ':'
  if ¬ (2 ≤ parts.length ∧ parts.length ≤ 3) then .error (.format input)
  let numbers ← parts.mapM fun p =>
    match parseUnsigned 256 p with
    | some n => .ok n
    | none => .error (.number (String.ofList p) input)
  let hour ← (hour24 meridiem (numbers.getD 0 0)).mapError (.hour input)
  let minute := numbers.getD 1 0
  let second := numbers.getD 2 0
  match CivilTime.new? (asI8 hour) (asI8 minute) (asI8 second) with
  | some wall => .ok wall
  | none => .error (.range input (asI8 hour) (asI8 minute) (asI8 second))

/-! ## Civil time in a zone -/

/-- The local day, counted from 1970-01-01, of an instant. -/
def TimeZone.localDay (tz : TimeZone) (t : Timestamp) : Int :=
  (t.nanos + tz.toOffset t * 1000000000) / (86400 * 1000000000)

/-- Local seconds since 1970-01-01T00:00 of a time on a day. -/
def CivilTime.on (wall : CivilTime) (day : Int) : Int :=
  day * 86400 + wall.hour * 3600 + wall.minute * 60 + wall.second

/-- At this instant, clocks in the zone show exactly this civil time. -/
def TimeZone.Shows (tz : TimeZone) (t : Timestamp) (civil : Int) : Prop :=
  t.nanos + tz.toOffset t * 1000000000 = civil * 1000000000

end MatterTimeCtl
