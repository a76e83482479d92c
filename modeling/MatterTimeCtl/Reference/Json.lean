/-
# MatterTimeCtl.Reference.Json — the state files as they are written, read back.

The byte-for-byte layout of identity.json and devices.json: pretty-printed with two blanks a level,
fields in camel case and in the order of the records, instants in RFC 3339.  Each is a `Format`, so that
it reads back comes with it.
-/
import MatterTimeCtl.State
import MatterTimeCtl.Text.Format

namespace MatterTimeCtl.Reference

open Text

/-! ## Codecs from formats -/

/-- A whole document in a format; there may be white space after it. -/
def codec {α : Type} (p : Format α) : Codec α where
  encode a := String.ofList (p.print a)
  decode text :=
    match p.parse text.toList with
    | some (a, rest) =>
      if rest.all fun c => c ∈ [' ', '\t', '\n', '\r'] then .ok a else .error "trailing characters"
    | none => .error "unexpected input"
  decode_encode a := by
    rw [String.toList_append, String.toList_ofList, p.parse_print]
    rfl

/-! ## Instants -/

/-- A number with leading zeros. -/
def padded (width n : Nat) : List Char :=
  let digits := Nat.toDigits 10 n
  List.replicate (width - digits.length) '0' ++ digits

/-- The month and the day of the month of a day, counted from 1970-01-01. -/
def monthDay (day : Int) : Nat × Nat :=
  let doe := (day + 719468) % 146097
  let yoe := (doe - doe / 1460 + doe / 36524 - doe / 146096) / 365
  let doy := doe - (365 * yoe + yoe / 4 - yoe / 100)
  let mp := (5 * doy + 2) / 153
  ((if mp < 10 then mp + 3 else mp - 9).toNat, (doy - (153 * mp + 2) / 5 + 1).toNat)

/-- The fraction of a second, without trailing zeros. -/
def fraction (nanos : Nat) : List Char :=
  if nanos = 0 then [] else '.' :: ((padded 9 nanos).reverse.dropWhile (· = '0')).reverse

/-- `2026-11-01T12:00:00Z`. -/
def rfc3339 (t : Timestamp) : List Char :=
  let second := t.asSecond
  let day := second / 86400
  let inDay := (second % 86400).toNat
  let (month, dayOfMonth) := monthDay day
  padded 4 (yearOfDay day).toNat ++ '-' :: padded 2 month ++ '-' :: padded 2 dayOfMonth ++
    'T' :: padded 2 (inDay / 3600) ++ ':' :: padded 2 (inDay / 60 % 60) ++
    ':' :: padded 2 (inDay % 60) ++ fraction (t.nanos % 1000000000).toNat ++ ['Z']

/-- A number of so many digits, and what follows it. -/
def digits (width : Nat) (cs : List Char) : Option (Nat × List Char) := do
  let n ← parseUnsigned (10 ^ width) (cs.take width)
  return (n, cs.drop width)

/-- The nanoseconds of a fraction. -/
def readFraction : List Char → Option Nat
  | ['Z'] => some 0
  | '.' :: cs => do
    let ds := cs.takeWhile Char.isDigit
    let n ← parseUnsigned (10 ^ 9) (ds ++ List.replicate (9 - ds.length) '0')
    if cs.dropWhile Char.isDigit = ['Z'] then return n else none
  | _ => none

/-- The text of an instant in UTC. -/
def readRfc3339 (cs : List Char) : Option Timestamp := do
  let (year, cs) ← digits 4 cs
  let (month, cs) ← digits 2 (← stripPrefix ['-'] cs)
  let (day, cs) ← digits 2 (← stripPrefix ['-'] cs)
  let (hour, cs) ← digits 2 (← stripPrefix ['T'] cs)
  let (minute, cs) ← digits 2 (← stripPrefix [':'] cs)
  let (second, cs) ← digits 2 (← stripPrefix [':'] cs)
  let nanos ← readFraction cs
  Timestamp.ofNanos? ((dayOfDate year month day * 86400 + hour * 3600 + minute * 60 + second) *
    1000000000 + nanos)

/-- The text of an instant; one outside the years that RFC 3339 has is written as a count. -/
def stampText (t : Timestamp) : List Char :=
  if readRfc3339 (rfc3339 t) = some t then rfc3339 t
  else '@' :: Nat.toDigits 10 (t.nanos - minNanos).toNat

/-- The reader of `stampText`. -/
def readStamp (cs : List Char) : Option Timestamp :=
  match readRfc3339 cs with
  | some t => some t
  | none => do
    let n ← parseUnsigned (2 ^ 128) (← stripPrefix ['@'] cs)
    Timestamp.ofNanos? (n + minNanos)

theorem readRfc3339_at (cs : List Char) : readRfc3339 ('@' :: cs) = none := by
  have hdigits : digits 4 ('@' :: cs) = none := by
    unfold digits parseUnsigned
    simp [pushDigit]
  unfold readRfc3339
  rw [hdigits]
  rfl

theorem readStamp_stampText (t : Timestamp) : readStamp (stampText t) = some t := by
  unfold stampText
  split
  · rename_i h
    rw [readStamp, h]
  · have hmin := t.min_le
    have hmax := t.le_max
    have hlt : (t.nanos - minNanos).toNat < 2 ^ 128 := by
      unfold minNanos maxNanos at *
      omega
    have hback : ((t.nanos - minNanos).toNat : Int) + minNanos = t.nanos := by omega
    rw [readStamp, readRfc3339_at]
    simp only [stripPrefix, if_true, Option.bind_eq_bind, Option.bind_some,
      parseUnsigned_toDigits hlt, hback, Timestamp.ofNanos?_nanos]

/-- An instant as a string. -/
def stamp : Format Timestamp :=
  Format.string.reshape (fun t => String.ofList (stampText t)) (fun s => readStamp s.toList)
    fun t => by rw [String.toList_ofList, readStamp_stampText]

/-! ## The fields -/

theorem string_neverStarts_null : Format.string.NeverStarts 'n' := Format.neverStarts_string (by decide)

/-- A string or `null`. -/
def nullableString : Format (Option String) := Format.string.nullable string_neverStarts_null

/-- An instant or `null`. -/
def nullableStamp : Format (Option Timestamp) :=
  stamp.nullable (Format.neverStarts_reshape string_neverStarts_null _ _ _)

theorem isDigit_comma : ','.isDigit = false := rfl

/-- A 64-bit number and the comma after it. -/
def u64 : Format UInt64 :=
  (Format.number (2 ^ 64) ',' isDigit_comma).reshape (fun n => ⟨n.toNat, n.toNat_lt⟩)
    (fun n => some (UInt64.ofNat n)) fun n => by rw [UInt64.ofNat_toNat]

/-! ## identity.json -/

/-- The fields of identity.json in the order of the source. -/
def identityFormat : Format Identity :=
  ((((Format.after "\x7b\n  \"fabricId\": " u64).pair (Format.after "\n  \"controllerNodeId\": " u64)).pair
    (Format.after "\n  \"nextDeviceNodeId\": " u64)).pair
    ((Format.after "\n  \"rcacPrivkeyHex\": " Format.string).before "\n\x7d")).reshape
      (fun i => (((i.fabricId, i.controllerNodeId), i.nextDeviceNodeId), i.rcacPrivkeyHex))
      (fun p => some ⟨p.1.1.1, p.1.1.2, p.1.2, p.2⟩) fun _ => rfl

/-! ## devices.json -/

/-- The fields of a device's record. -/
def recordFormat : Format DeviceRecord :=
  ((((((Format.after "\x7b\n      \"vendorName\": " nullableString).pair
    (Format.after ",\n      \"productName\": " nullableString)).pair
    (Format.after ",\n      \"lastSuccessfulConnection\": " nullableStamp)).pair
    (Format.after ",\n      \"lastSuccessfulSync\": " nullableStamp)).pair
    (Format.after ",\n      \"lastAttemptedSync\": " nullableStamp)).pair
    ((Format.after ",\n      \"lastError\": " nullableString).before "\n    \x7d")).reshape
      (fun d => (((((d.vendorName, d.productName), d.lastSuccessfulConnection), d.lastSuccessfulSync),
        d.lastAttemptedSync), d.lastError))
      (fun p => some ⟨p.1.1.1.1.1, p.1.1.1.1.2, p.1.1.1.2, p.1.1.2, p.1.2, p.2⟩) fun _ => rfl

/-- A record under its key. -/
def entryFormat : Format (String × DeviceRecord) :=
  (Format.after "\n    " Format.string).pair (Format.after ": " recordFormat)

/-- The first entry and the others, or none at all. -/
def nodesFormat : Format (List (String × DeviceRecord)) :=
  (Format.after "\x7b" (Format.orLiteral "\x7d"
    ((entryFormat.pair ((Format.after "," entryFormat).many '\n'
      (Format.neverStarts_after rfl (by decide)))).before "  \x7d")
    rfl fun e => ⟨_, _, rfl, by decide⟩)).reshape
      (fun l => l.head?.map fun e => (e, l.tail))
      (fun l => some (l.elim [] fun p => p.1 :: p.2)) fun l => by cases l <;> rfl

theorem ofList_toList (m : Std.ExtTreeMap String DeviceRecord compare) :
    Std.ExtTreeMap.ofList m.toList compare = m := by
  refine Std.ExtTreeMap.ext_getElem? fun k => ?_
  have distinct := m.distinct_keys_toList
  cases hk : m[k]? with
  | some v =>
      have hmem : (k, v) ∈ m.toList := Std.ExtTreeMap.mem_toList_iff_getElem?_eq_some.mpr hk
      exact Std.ExtTreeMap.getElem?_ofList_of_mem Std.ReflCmp.compare_self distinct hmem
  | none =>
      refine Std.ExtTreeMap.getElem?_ofList_of_contains_eq_false ?_
      rw [Std.ExtTreeMap.map_fst_toList_eq_keys]
      simpa using hk

/-- All of devices.json. -/
def devicesFormat : Format Devices :=
  ((Format.after "\x7b\n  \"nodes\": " nodesFormat).before "\n\x7d").reshape (fun d => d.nodes.toList)
    (fun l => some ⟨.ofList l compare⟩) fun d => by rw [ofList_toList]

end MatterTimeCtl.Reference
