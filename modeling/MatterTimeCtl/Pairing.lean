/-
# MatterTimeCtl.Pairing — manual pairing codes.

An 11-digit code, or a 21-digit code with vendor and product ids, packs the upper bits of a discriminator
and a setup passcode into decimal chunks, guarded by a trailing check digit.  `encode` is the packing as
the Matter specification has it, `parseManualCode` reads it back.  What is encoded is read back whatever
separators are put in (`parse_encode`); but the parser reads other codes as well, because a decimal chunk
can hold more than its bit fields and the bits that are too many are dropped.
-/
import MatterTimeCtl.Types
import MatterTimeCtl.Text.Decimal

namespace MatterTimeCtl

open Text

/-! ## Decoding -/

/-- Why a pairing code is refused. -/
inductive PairingCodeError where
  | qrPayload
  | badLength (length : Nat)
  | badCheckDigit
  | badPasscode
  deriving DecidableEq

/-- The message for the operator. -/
def PairingCodeError.display : PairingCodeError → String
  | .qrPayload => "QR payloads are not supported; enter the numeric pairing code shown by the primary ecosystem"
  | .badLength length => "pairing code must be 11 or 21 digits (got " ++ toString length ++ ")"
  | .badCheckDigit => "pairing code check digit is wrong; re-check the digits"
  | .badPasscode => "pairing code decodes to an invalid setup passcode"

/-- The check digit of a string of digits, from another package. -/
structure CheckDigit where
  calculate : String → UInt8
  calculate_lt_ten : ∀ payload, calculate payload < 10

/-- Setup passcodes the specification forbids. -/
def invalidPasscodes : List Nat :=
  [0, 11111111, 22222222, 33333333, 44444444, 55555555, 66666666, 77777777, 88888888, 99999999,
    12345678, 87654321]

/-- `char::to_digit(10)`. -/
def toDigit (c : Char) : Option Nat := if c.isDigit then some (c.toNat - '0'.toNat) else none

/-- The character of a digit. -/
def digitChar (d : Nat) : Char := Char.ofNat ('0'.toNat + d)

/-- Whether a character is kept; whitespace and hyphens are separators. -/
def isPart (c : Char) : Bool := !isWhitespace c && c ≠ '-'

/-- The string of all digits but the check digit. -/
def payloadOf (digits : List Nat) : String :=
  String.ofList ((digits.take (digits.length - 1)).map digitChar)

/-- Digits 2 to 6 as a number. -/
def chunk2 (digits : List Nat) : Nat := value ((digits.drop 1).take 5)

/-- Digits 7 to 10 as a number. -/
def chunk3 (digits : List Nat) : Nat := value ((digits.drop 6).take 4)

/-- Bits of the first digit and of the second chunk. -/
def shortDiscriminatorOf (digits : List Nat) : Nat :=
  ((digits.getD 0 0 &&& 0x3) <<< 2) ||| ((chunk2 digits >>> 14) &&& 0x3)

/-- The high bits of the passcode are in the third chunk, the low 14 in the second. -/
def passcodeOf (digits : List Nat) : Nat := (chunk3 digits <<< 14) ||| (chunk2 digits &&& 0x3FFF)

/-- The checks on the digits, in the order of the code. -/
def decodeDigits (check : CheckDigit) (digits : List Nat) : Except PairingCodeError Onboarding :=
  if digits.length ≠ 11 ∧ digits.length ≠ 21 then .error (.badLength digits.length)
  else if (check.calculate (payloadOf digits)).toNat ≠ digits.getD (digits.length - 1) 0 then
    .error .badCheckDigit
  else
    -- digit 1  = (VID_PID_PRESENT << 2) | (discriminator >> 10)
    -- digits 2-6 = ((discriminator & 0x300) << 6) | (passcode & 0x3FFF)
    -- digits 7-10 = passcode >> 14
    let passcode := passcodeOf digits
    if passcode ≥ 1 <<< 27 ∨ passcode ∈ invalidPasscodes then .error .badPasscode
    else .ok {
      passcode := UInt32.ofNat passcode, shortDiscriminator := UInt8.ofNat (shortDiscriminatorOf digits) }

/-- A QR payload is refused before the digits are looked at; a character that is none counts as a bad length. -/
def parseManualCode (check : CheckDigit) (raw : String) : Except PairingCodeError Onboarding :=
  let trimmed := trim raw.toList
  if "MT:".toList.isPrefixOf trimmed then .error .qrPayload
  else
    match (trimmed.filter isPart).mapM toDigit with
    | none => .error (.badLength (String.ofList trimmed).utf8ByteSize)
    | some digits => decodeDigits check digits

/-! ## Encoding -/

/-- The digits of the vendor and product ids, when there are any. -/
def encodeIds : Option (UInt16 × UInt16) → List Nat
  | some (vendor, product) => padded 5 vendor.toNat ++ padded 5 product.toNat
  | none => []

/-- The digits that carry a passcode, a discriminator and, when given, vendor and product ids. -/
def encodePayload (passcode : Nat) (discriminator : BitVec 12) (ids : Option (UInt16 × UInt16)) : List Nat :=
  let flag := if ids.isSome then 4 else 0
  let chunk2 := discriminator.toNat / 256 % 4 * 16384 + passcode % 16384
  (flag + discriminator.toNat / 1024) ::
    (padded 5 chunk2 ++ (padded 4 (passcode / 16384) ++ encodeIds ids))

/-- The digits of a pairing code, the check digit last. -/
def encode (check : CheckDigit) (passcode : Nat) (discriminator : BitVec 12)
    (ids : Option (UInt16 × UInt16)) : List Nat :=
  let payload := encodePayload passcode discriminator ids
  payload ++ [(check.calculate (String.ofList (payload.map digitChar))).toNat]

/-! ## Characters -/

theorem toDigit_digitChar {d : Nat} (h : d < 10) : toDigit (digitChar d) = some d := by
  have hall : ∀ d : Fin 10, toDigit (digitChar d) = some d.val := by decide
  exact hall ⟨d, h⟩

theorem isPart_digitChar {d : Nat} (h : d < 10) : isPart (digitChar d) = true ∧ digitChar d ≠ 'M' := by
  have hall : ∀ d : Fin 10, isPart (digitChar d) = true ∧ digitChar d ≠ 'M' := by decide
  exact hall ⟨d, h⟩

theorem eq_digitChar {c : Char} {d : Nat} (h : toDigit c = some d) : c = digitChar d ∧ d < 10 := by
  unfold toDigit at h
  split at h
  · rename_i hdigit
    obtain rfl := Option.some.inj h
    have hrange : '0'.toNat ≤ c.toNat ∧ c.toNat ≤ '9'.toNat := by
      simpa [Char.isDigit, Char.le_def, UInt32.le_iff_toNat_le] using hdigit
    have hzero : '0'.toNat = 48 := by decide
    have hnine : '9'.toNat = 57 := by decide
    rw [hzero, hnine] at hrange
    refine ⟨?_, by omega⟩
    rw [digitChar, Nat.add_sub_cancel' (by omega), Char.ofNat_toNat]
  · cases h

theorem mapM_toDigit_digitChar {digits : List Nat} (h : ∀ d ∈ digits, d < 10) :
    (digits.map digitChar).mapM toDigit = some digits := by
  induction digits with
  | nil => rfl
  | cons d digits ih =>
      have hd := toDigit_digitChar (h d List.mem_cons_self)
      have hrest := ih fun e he => h e (List.mem_cons_of_mem _ he)
      rw [List.map_cons, List.mapM_cons, hd, hrest]
      rfl

/-- Only digits are read as digits. -/
theorem eq_map_digitChar {cs : List Char} {digits : List Nat} (h : cs.mapM toDigit = some digits) :
    cs = digits.map digitChar ∧ ∀ d ∈ digits, d < 10 := by
  induction cs generalizing digits with
  | nil =>
      cases h
      exact ⟨rfl, List.forall_mem_nil _⟩
  | cons c cs ih =>
      rw [List.mapM_cons] at h
      obtain ⟨d, hd, h⟩ := Option.bind_eq_some_iff.mp h
      obtain ⟨rest, hrest, h⟩ := Option.bind_eq_some_iff.mp h
      cases h
      obtain ⟨rfl, hlt⟩ := eq_digitChar hd
      obtain ⟨rfl, hall⟩ := ih hrest
      exact ⟨rfl, List.forall_mem_cons.mpr ⟨hlt, hall⟩⟩

/-! ## Separators -/

theorem filter_isPart_dropWhile (cs : List Char) :
    (cs.dropWhile isWhitespace).filter isPart = cs.filter isPart := by
  induction cs with
  | nil => rfl
  | cons c cs ih =>
      rw [List.dropWhile_cons]
      split
      · rename_i hspace
        have hpart : ¬ isPart c = true := by simp [isPart, hspace]
        rw [ih, List.filter_cons_of_neg hpart]
      · rfl

/-- Trimming takes nothing away but separators. -/
theorem filter_isPart_trim (cs : List Char) : (trim cs).filter isPart = cs.filter isPart := by
  rw [trim, trimEnd, List.filter_reverse, filter_isPart_dropWhile, List.filter_reverse, List.reverse_reverse,
    filter_isPart_dropWhile]

/-- What is left without separators: the digits, or no digits. -/
def digitsOf (raw : String) : Option (List Nat) := (raw.toList.filter isPart).mapM toDigit

/-- **A code is its digits.** -/
theorem parseManualCode_eq (check : CheckDigit) {raw : String} {digits : List Nat}
    (h : digitsOf raw = some digits) : parseManualCode check raw = decodeDigits check digits := by
  have hfilter : ((trim raw.toList).filter isPart).mapM toDigit = some digits := by
    rw [filter_isPart_trim]
    exact h
  unfold parseManualCode
  dsimp only
  rw [if_neg, hfilter]
  intro hqr
  -- a prefix would bring its M among the digits
  have hM : 'M' ∈ (trim raw.toList).filter isPart :=
    List.mem_filter.mpr ⟨(List.isPrefixOf_iff_prefix.mp hqr).subset (by decide), by decide⟩
  obtain ⟨hdigits, hlt⟩ := eq_map_digitChar hfilter
  rw [hdigits] at hM
  obtain ⟨d, hd, hchar⟩ := List.mem_map.mp hM
  exact (isPart_digitChar (hlt d hd)).2 hchar

/-! ## The layout of the digits -/

/-- The parts of a code: the first digit, three chunks and the check digit. -/
structure Parts (digits : List Nat) (first : Nat) (second third ids : List Nat) (last : Nat) : Prop where
  eq : digits = first :: (second ++ (third ++ (ids ++ [last])))
  length_second : second.length = 5
  length_third : third.length = 4

theorem exists_parts {digits : List Nat} (h : 11 ≤ digits.length) :
    ∃ first second third ids last, Parts digits first second third ids last := by
  obtain ⟨first, rest, rfl⟩ := List.exists_cons_of_length_pos (by omega : 0 < digits.length)
  rw [List.length_cons] at h
  have hne : (rest.drop 5).drop 4 ≠ [] := by
    rw [← List.length_pos_iff, List.length_drop, List.length_drop]
    omega
  refine ⟨first, rest.take 5, (rest.drop 5).take 4, ((rest.drop 5).drop 4).dropLast,
    ((rest.drop 5).drop 4).getLast hne, ?_, ?_, ?_⟩
  · rw [List.dropLast_append_getLast, List.take_append_drop, List.take_append_drop]
  · rw [List.length_take]
    omega
  · rw [List.length_take, List.length_drop]
    omega

section Parts

variable {digits second third ids : List Nat} {first last : Nat}
  (parts : Parts digits first second third ids last)
include parts

theorem Parts.first_eq : digits.getD 0 0 = first := by
  rw [parts.eq]
  rfl

theorem Parts.length_eq : digits.length = 11 + ids.length := by
  have h₁ := parts.length_second
  have h₂ := parts.length_third
  rw [parts.eq]
  simp only [List.length_cons, List.length_append, List.length_nil]
  omega

theorem Parts.chunk2_eq : chunk2 digits = value second := by
  rw [chunk2, parts.eq, List.drop_succ_cons, List.drop_zero, List.take_left' parts.length_second]

theorem Parts.chunk3_eq : chunk3 digits = value third := by
  rw [chunk3, parts.eq, List.drop_succ_cons, List.drop_left' parts.length_second,
    List.take_left' parts.length_third]

theorem Parts.eq_append : digits = (first :: (second ++ (third ++ ids))) ++ [last] := by
  rw [parts.eq]
  simp only [List.cons_append, List.append_assoc]

theorem Parts.last_eq : digits.getD (digits.length - 1) 0 = last := by
  rw [parts.eq_append, List.length_append, List.length_singleton, Nat.add_sub_cancel,
    List.getD_append_right _ _ _ _ le_rfl, Nat.sub_self]
  rfl

theorem Parts.payload_eq :
    payloadOf digits = String.ofList ((first :: (second ++ (third ++ ids))).map digitChar) := by
  rw [payloadOf, parts.eq_append, List.length_append, List.length_singleton, Nat.add_sub_cancel,
    List.take_left' rfl]

end Parts

/-! ## Bit fields -/

theorem shortDiscriminatorOf_eq (digits : List Nat) :
    shortDiscriminatorOf digits = digits.getD 0 0 % 4 * 4 + chunk2 digits / 16384 % 4 := by
  have hfirst : digits.getD 0 0 &&& 0x3 = digits.getD 0 0 % 4 := Nat.and_two_pow_sub_one_eq_mod _ 2
  have hsecond : (chunk2 digits >>> 14) &&& 0x3 = chunk2 digits / 16384 % 4 := by
    rw [Nat.shiftRight_eq_div_pow]
    exact Nat.and_two_pow_sub_one_eq_mod _ 2
  rw [shortDiscriminatorOf, hfirst, hsecond, ← Nat.shiftLeft_add_eq_or_of_lt (by omega), Nat.shiftLeft_eq]

theorem passcodeOf_eq (digits : List Nat) :
    passcodeOf digits = chunk3 digits * 16384 + chunk2 digits % 16384 := by
  have hlow : chunk2 digits &&& 0x3FFF = chunk2 digits % 16384 := Nat.and_two_pow_sub_one_eq_mod _ 14
  rw [passcodeOf, hlow, ← Nat.shiftLeft_add_eq_or_of_lt (by omega), Nat.shiftLeft_eq]

/-! ## The Verhoeff check digit -/

namespace Reference

/-- Multiplication in the dihedral group of order ten. -/
def dihedral : List (List Nat) :=
  [[0, 1, 2, 3, 4, 5, 6, 7, 8, 9], [1, 2, 3, 4, 0, 6, 7, 8, 9, 5], [2, 3, 4, 0, 1, 7, 8, 9, 5, 6],
    [3, 4, 0, 1, 2, 8, 9, 5, 6, 7], [4, 0, 1, 2, 3, 9, 5, 6, 7, 8], [5, 9, 8, 7, 6, 0, 4, 3, 2, 1],
    [6, 5, 9, 8, 7, 1, 0, 4, 3, 2], [7, 6, 5, 9, 8, 2, 1, 0, 4, 3], [8, 7, 6, 5, 9, 3, 2, 1, 0, 4],
    [9, 8, 7, 6, 5, 4, 3, 2, 1, 0]]

/-- The permutation of each place, which repeats after eight places. -/
def permutations : List (List Nat) :=
  [[0, 1, 2, 3, 4, 5, 6, 7, 8, 9], [1, 5, 7, 6, 2, 8, 3, 0, 9, 4], [5, 8, 0, 3, 7, 9, 6, 1, 4, 2],
    [8, 9, 1, 6, 0, 4, 3, 5, 2, 7], [9, 4, 5, 3, 1, 2, 6, 8, 7, 0], [4, 2, 8, 6, 5, 7, 3, 9, 0, 1],
    [2, 7, 9, 3, 8, 0, 6, 4, 1, 5], [7, 0, 4, 6, 9, 1, 3, 2, 5, 8]]

/-- The inverse of each element of the dihedral group. -/
def inverses : List UInt8 := [0, 4, 3, 2, 1, 5, 6, 7, 8, 9]

/-- The digits from the last one on, each with its place; the check digit has place 0. -/
def checksum : Nat → List Nat → Nat → Nat
  | _, [], sum => sum
  | place, d :: digits, sum =>
    checksum (place + 1) digits ((dihedral.getD sum []).getD ((permutations.getD (place % 8) []).getD d 0) 0)

/-- The digit that brings the checksum to the neutral element. -/
def calculate (payload : String) : UInt8 :=
  inverses.getD (checksum 1 (payload.toList.reverse.map fun c => (toDigit c).getD 0) 0) 0

/-- The check of the package that the program uses. -/
def verhoeff : CheckDigit where
  calculate := calculate
  calculate_lt_ten payload := by
    have hall : ∀ d ∈ inverses, d < 10 := by decide +kernel
    unfold calculate
    generalize checksum 1 _ 0 = sum
    rw [List.getD_eq_getElem?_getD]
    cases h : inverses[sum]? with
    | none => decide
    | some d => exact hall d (List.mem_of_getElem? h)

end Reference

/-! ## Decoding undoes encoding -/

theorem length_encodeIds (ids : Option (UInt16 × UInt16)) :
    (encodeIds ids).length = if ids.isSome then 10 else 0 := by
  cases ids with
  | none => rfl
  | some ids => simp [encodeIds]

section Encode

variable (check : CheckDigit) (passcode : Nat) (discriminator : BitVec 12) (ids : Option (UInt16 × UInt16))

/-- The parts of an encoded code. -/
theorem parts_encode :
    Parts (encode check passcode discriminator ids)
      ((if ids.isSome then 4 else 0) + discriminator.toNat / 1024)
      (padded 5 (discriminator.toNat / 256 % 4 * 16384 + passcode % 16384)) (padded 4 (passcode / 16384))
      (encodeIds ids) (check.calculate
        (String.ofList ((encodePayload passcode discriminator ids).map digitChar))).toNat where
  eq := by
    rw [encode, encodePayload]
    simp only [List.cons_append, List.append_assoc]
  length_second := length_padded _ _
  length_third := length_padded _ _

theorem encode_lt_ten : ∀ d ∈ encode check passcode discriminator ids, d < 10 := by
  have hflag : (if ids.isSome then 4 else 0) + discriminator.toNat / 1024 < 10 := by
    have := discriminator.isLt
    split <;> omega
  have hids : ∀ d ∈ encodeIds ids, d < 10 := by
    intro d hd
    cases ids with
    | none => cases hd
    | some ids => exact (List.mem_append.mp hd).elim padded_lt_ten padded_lt_ten
  intro d hd
  rw [(parts_encode check passcode discriminator ids).eq] at hd
  simp only [List.mem_cons, List.mem_append, List.not_mem_nil, or_false] at hd
  rcases hd with rfl | hd | hd | hd | rfl
  · exact hflag
  · exact padded_lt_ten hd
  · exact padded_lt_ten hd
  · exact hids d hd
  · exact UInt8.lt_iff_toNat_lt.mp (check.calculate_lt_ten _)

theorem length_encode : (encode check passcode discriminator ids).length = if ids.isSome then 21 else 11 := by
  rw [(parts_encode check passcode discriminator ids).length_eq, length_encodeIds]
  split <;> rfl

end Encode

/-- **Decoding undoes encoding.**  Whatever separators are put in, the code of a passcode that is allowed and
fits is read back as that passcode and the upper four bits of the discriminator, with or without ids. -/
theorem parse_encode (check : CheckDigit) {passcode : Nat} (small : passcode < 2 ^ 27)
    (allowed : passcode ∉ invalidPasscodes) (discriminator : BitVec 12) (ids : Option (UInt16 × UInt16))
    {raw : String}
    (spelled : raw.toList.filter isPart = (encode check passcode discriminator ids).map digitChar) :
    parseManualCode check raw = .ok {
      passcode := UInt32.ofNat passcode
      shortDiscriminator := UInt8.ofNat (discriminator.toNat >>> 8) } := by
  -- the chunks of the code are read off as numbers, and put together by their bit positions
  have parts := parts_encode check passcode discriminator ids
  have hdigits : digitsOf raw = some (encode check passcode discriminator ids) := by
    rw [digitsOf, spelled]
    exact mapM_toDigit_digitChar (encode_lt_ten check passcode discriminator ids)
  have hdisc := discriminator.isLt
  have hsecond : chunk2 (encode check passcode discriminator ids) =
      discriminator.toNat / 256 % 4 * 16384 + passcode % 16384 := by
    rw [parts.chunk2_eq, value_padded (by omega)]
  have hthird : chunk3 (encode check passcode discriminator ids) = passcode / 16384 := by
    rw [parts.chunk3_eq, value_padded (by omega)]
  have hpasscode : passcodeOf (encode check passcode discriminator ids) = passcode := by
    rw [passcodeOf_eq, hsecond, hthird]
    omega
  have hshort : shortDiscriminatorOf (encode check passcode discriminator ids) = discriminator.toNat >>> 8 := by
    rw [shortDiscriminatorOf_eq, hsecond, parts.first_eq, Nat.shiftRight_eq_div_pow]
    split <;> omega
  rw [parseManualCode_eq check hdigits, decodeDigits, if_neg, if_neg, hpasscode, if_neg, hshort]
  · rintro (h | h)
    · exact absurd small (Nat.not_lt.mpr h)
    · exact allowed h
  · rw [not_not, parts.last_eq, parts.payload_eq, encodePayload]
  · rw [length_encode]
    split <;> omega

example : parseManualCode Reference.verhoeff "3497-011-2332" =
    .ok { passcode := 20202021, shortDiscriminator := 15 } := by decide +kernel

/-- The test code of the specification, with separators. -/
theorem test_code_parsed : parseManualCode Reference.verhoeff " 3497-011 2332\n" =
    .ok { passcode := UInt32.ofNat 20202021, shortDiscriminator := UInt8.ofNat ((0xF00#12).toNat >>> 8) } :=
  parse_encode Reference.verhoeff (by norm_num) (by decide +kernel) 0xF00#12 none (by decide +kernel)

/-! ## What is accepted -/

/-- What an accepted code has passed. -/
structure Accepted (check : CheckDigit) (digits : List Nat) (onboarding : Onboarding) : Prop where
  length : digits.length = 11 ∨ digits.length = 21
  checked : (check.calculate (payloadOf digits)).toNat = digits.getD (digits.length - 1) 0
  small : passcodeOf digits < 2 ^ 27
  allowed : passcodeOf digits ∉ invalidPasscodes
  onboarding : onboarding = {
    passcode := UInt32.ofNat (passcodeOf digits)
    shortDiscriminator := UInt8.ofNat (shortDiscriminatorOf digits) }

theorem accepted_of_decodeDigits {check : CheckDigit} {digits : List Nat} {onboarding : Onboarding}
    (h : decodeDigits check digits = .ok onboarding) : Accepted check digits onboarding := by
  unfold decodeDigits at h
  split at h
  · cases h
  · rename_i hlength
    split at h
    · cases h
    · rename_i hcheck
      dsimp only at h
      split at h
      · cases h
      · rename_i hpasscode
        cases h
        rw [not_or, ge_iff_le, not_le] at hpasscode
        exact ⟨by omega, not_not.mp hcheck, hpasscode.1, hpasscode.2, rfl⟩

theorem Accepted.passcode_eq {check : CheckDigit} {digits : List Nat} {onboarding : Onboarding}
    (h : Accepted check digits onboarding) : onboarding.passcode.toNat = passcodeOf digits := by
  have hsmall := h.small
  rw [h.onboarding, UInt32.toNat_ofNat_of_lt' (by rw [UInt32.size]; omega)]

/-- The code is the encoding of a discriminator with these upper bits and of this passcode, which is in the
range of setup passcodes. -/
def WellFormed (check : CheckDigit) (digits : List Nat) (onboarding : Onboarding) : Prop :=
  ∃ discriminator ids, digits = encode check onboarding.passcode.toNat discriminator ids ∧
    onboarding.shortDiscriminator = UInt8.ofNat (discriminator.toNat >>> 8) ∧
    1 ≤ onboarding.passcode.toNat ∧ onboarding.passcode.toNat ≤ 99999998 ∧
    onboarding.passcode.toNat ∉ invalidPasscodes

/-- The digits are in the ranges that no check enforces. -/
structure InRange (digits : List Nat) : Prop where
  first : digits.getD 0 0 ≤ 7
  flag : 4 ≤ digits.getD 0 0 ↔ digits.length = 21
  second : chunk2 digits ≤ 65535
  vendor : digits.length = 21 → value ((digits.drop 10).take 5) ≤ 65535
  product : digits.length = 21 → value ((digits.drop 15).take 5) ≤ 65535
  passcode : chunk3 digits * 16384 + chunk2 digits % 16384 ≤ 99999998

section Parts

variable {digits second third ids : List Nat} {first last : Nat}
  (parts : Parts digits first second third ids last) (length : ids.length = 10)
include parts length

theorem Parts.vendor_eq : (digits.drop 10).take 5 = ids.take 5 := by
  have hthird : second.length + third.length = 9 := by rw [parts.length_second, parts.length_third]
  rw [parts.eq, List.drop_succ_cons, ← List.append_assoc, List.drop_left' (by simpa using hthird),
    List.take_append_of_le_length (by omega)]

theorem Parts.product_eq : (digits.drop 15).take 5 = ids.drop 5 := by
  have hthird : second.length + third.length = 9 := by rw [parts.length_second, parts.length_third]
  have hsplit : digits.drop 15 = (digits.drop 10).drop 5 := by rw [List.drop_drop]
  rw [hsplit, parts.eq, List.drop_succ_cons, ← List.append_assoc, List.drop_left' (by simpa using hthird),
    List.drop_append_of_le_length (by omega), List.take_left' (by rw [List.length_drop, length])]

end Parts

/-- What is encoded is in range. -/
theorem inRange_encode (check : CheckDigit) {passcode : Nat} (small : passcode ≤ 99999998)
    (discriminator : BitVec 12) (ids : Option (UInt16 × UInt16)) :
    InRange (encode check passcode discriminator ids) := by
  have parts := parts_encode check passcode discriminator ids
  have hdisc := discriminator.isLt
  have hsecond : chunk2 (encode check passcode discriminator ids) =
      discriminator.toNat / 256 % 4 * 16384 + passcode % 16384 := by
    rw [parts.chunk2_eq, value_padded (by omega)]
  have hthird : chunk3 (encode check passcode discriminator ids) = passcode / 16384 := by
    rw [parts.chunk3_eq, value_padded (by omega)]
  have hlength := length_encode check passcode discriminator ids
  refine ⟨?_, ?_, by omega, fun h => ?_, fun h => ?_, by omega⟩
  · rw [parts.first_eq]
    split <;> omega
  · rw [parts.first_eq, hlength]
    split <;> omega
  · cases ids with
    | none => cases hlength.symm.trans h
    | some ids =>
        have hids : (encodeIds (some ids)).length = 10 := length_encodeIds _
        rw [parts.vendor_eq hids, encodeIds, List.take_left' (length_padded _ _), value_padded] <;>
          have := ids.1.toNat_lt <;> omega
  · cases ids with
    | none => cases hlength.symm.trans h
    | some ids =>
        have hids : (encodeIds (some ids)).length = 10 := length_encodeIds _
        rw [parts.product_eq hids, encodeIds, List.drop_left' (length_padded _ _), value_padded] <;>
          have := ids.2.toNat_lt <;> omega

/-- The ids that ten digits spell. -/
theorem exists_ids {ids : List Nat} (hlt : ∀ d ∈ ids, d < 10) (length : ids.length = 10)
    (vendor : value (ids.take 5) ≤ 65535) (product : value (ids.drop 5) ≤ 65535) :
    ∃ pair, ids = encodeIds (some pair) := by
  refine ⟨(UInt16.ofNat (value (ids.take 5)), UInt16.ofNat (value (ids.drop 5))), ?_⟩
  have hfive : (ids.take 5).length = 5 := by simp [length]
  have hfive' : (ids.drop 5).length = 5 := by simp [length]
  have hfirst : padded (ids.take 5).length (value (ids.take 5)) = ids.take 5 :=
    padded_value fun d hd => hlt d (List.mem_of_mem_take hd)
  have hlast : padded (ids.drop 5).length (value (ids.drop 5)) = ids.drop 5 :=
    padded_value fun d hd => hlt d (List.mem_of_mem_drop hd)
  rw [hfive] at hfirst
  rw [hfive'] at hlast
  rw [encodeIds, UInt16.toNat_ofNat_of_lt' (by rw [UInt16.size]; omega),
    UInt16.toNat_ofNat_of_lt' (by rw [UInt16.size]; omega), hfirst, hlast, List.take_append_drop]

/-- **A code in range is an encoding**: its chunks hold no more than their bit fields. -/
theorem exists_encode {check : CheckDigit} {digits : List Nat} {onboarding : Onboarding}
    (hlt : ∀ d ∈ digits, d < 10) (accepted : Accepted check digits onboarding) (range : InRange digits) :
    ∃ discriminator ids, digits = encode check (passcodeOf digits) discriminator ids ∧
      shortDiscriminatorOf digits = discriminator.toNat >>> 8 := by
  have hlong : 11 ≤ digits.length := by
    have := accepted.length
    omega
  obtain ⟨first, second, third, ids, last, parts⟩ := exists_parts hlong
  have hall := hlt
  rw [parts.eq] at hall
  simp only [List.mem_cons, List.mem_append, List.not_mem_nil, or_false] at hall
  have hthird := padded_value fun d hd => hall d (.inr (.inr (.inl hd)))
  have hsecond := padded_value fun d hd => hall d (.inr (.inl hd))
  rw [parts.length_second, ← parts.chunk2_eq] at hsecond
  rw [parts.length_third, ← parts.chunk3_eq] at hthird
  have hfirst := range.first
  have hflag := range.flag
  have hrange := range.second
  have hlength := parts.length_eq
  rw [parts.first_eq] at hfirst hflag
  have hids : ∃ pair, ids = encodeIds pair ∧ (pair.isSome = true ↔ digits.length = 21) := by
    rcases accepted.length with h | h
    · have hnil : ids = [] := List.length_eq_zero_iff.mp (by omega)
      exact ⟨none, hnil, by simp [h]⟩
    · have hten : ids.length = 10 := by omega
      have hvendor := range.vendor h
      have hproduct := range.product h
      rw [parts.vendor_eq hten] at hvendor
      rw [parts.product_eq hten] at hproduct
      obtain ⟨pair, hpair⟩ := exists_ids (fun d hd => hall d (.inr (.inr (.inr (.inl hd))))) hten hvendor
        hproduct
      exact ⟨some pair, hpair, by simp [h]⟩
  obtain ⟨pair, rfl, hpair⟩ := hids
  -- the upper four bits of the discriminator, over eight bits that the code does not carry
  have hdisc : (BitVec.ofNat 12 (first % 4 * 1024 + chunk2 digits / 16384 * 256)).toNat =
      first % 4 * 1024 + chunk2 digits / 16384 * 256 := by
    rw [BitVec.toNat_ofNat, Nat.mod_eq_of_lt (by omega)]
  refine ⟨BitVec.ofNat 12 (first % 4 * 1024 + chunk2 digits / 16384 * 256), pair, ?_, ?_⟩
  · have hpayload : encodePayload (passcodeOf digits)
        (BitVec.ofNat 12 (first % 4 * 1024 + chunk2 digits / 16384 * 256)) pair =
        first :: (second ++ (third ++ encodeIds pair)) := by
      have hflagged : (if pair.isSome then 4 else 0) +
          (first % 4 * 1024 + chunk2 digits / 16384 * 256) / 1024 = first := by
        split <;> rename_i h
        · have := hflag.mpr (hpair.mp h)
          omega
        · have := mt hpair.mpr h
          have := mt hflag.mp this
          omega
      have hchunk : (first % 4 * 1024 + chunk2 digits / 16384 * 256) / 256 % 4 * 16384 +
          passcodeOf digits % 16384 = chunk2 digits := by
        rw [passcodeOf_eq]
        omega
      have hhigh : passcodeOf digits / 16384 = chunk3 digits := by
        rw [passcodeOf_eq]
        omega
      rw [encodePayload, hdisc, hflagged, hchunk, hhigh, hsecond, hthird]
    have hlast := accepted.checked
    rw [parts.last_eq, parts.payload_eq] at hlast
    rw [encode, hpayload, hlast]
    exact parts.eq_append
  · rw [hdisc, shortDiscriminatorOf_eq, parts.first_eq, Nat.shiftRight_eq_div_pow]
    omega

/-- Of the discriminator a code carries the upper four bits only. -/
theorem encode_congr (check : CheckDigit) (passcode : Nat) {discriminator discriminator' : BitVec 12}
    (ids : Option (UInt16 × UInt16)) (h : discriminator.toNat >>> 8 = discriminator'.toNat >>> 8) :
    encode check passcode discriminator ids = encode check passcode discriminator' ids := by
  rw [Nat.shiftRight_eq_div_pow, Nat.shiftRight_eq_div_pow] at h
  have hhigh : discriminator.toNat / 1024 = discriminator'.toNat / 1024 := by omega
  have hlow : discriminator.toNat / 256 % 4 = discriminator'.toNat / 256 % 4 := by omega
  rw [encode, encode, encodePayload, encodePayload, hhigh, hlow]

section Accepted

variable {check : CheckDigit} {digits digits' : List Nat} {onboarding : Onboarding}

theorem Accepted.wellFormed (hlt : ∀ d ∈ digits, d < 10) (accepted : Accepted check digits onboarding)
    (range : InRange digits) : WellFormed check digits onboarding := by
  obtain ⟨discriminator, ids, hdigits, hshort⟩ := exists_encode hlt accepted range
  have hpasscode := accepted.passcode_eq
  have hsmall := range.passcode
  have hallowed := accepted.allowed
  rw [← passcodeOf_eq, ← hpasscode] at hsmall
  rw [← hpasscode] at hallowed hdigits
  refine ⟨discriminator, ids, hdigits, ?_, ?_, hsmall, hallowed⟩
  · rw [accepted.onboarding, hshort]
  · by_contra hzero
    exact hallowed (by rw [Nat.lt_one_iff.mp (Nat.not_le.mp hzero)]; decide)

/-- Two codes of eleven digits in range that decode to the same are the same. -/
theorem Accepted.injective (hlt : ∀ d ∈ digits, d < 10) (hlt' : ∀ d ∈ digits', d < 10)
    (accepted : Accepted check digits onboarding) (accepted' : Accepted check digits' onboarding)
    (length : digits.length = 11) (length' : digits'.length = 11) (range : InRange digits)
    (range' : InRange digits') : digits = digits' := by
  obtain ⟨discriminator, ids, hdigits, hshort, -⟩ := accepted.wellFormed hlt range
  obtain ⟨discriminator', ids', hdigits', hshort', -⟩ := accepted'.wellFormed hlt' range'
  have none_of : ∀ {ids : Option (UInt16 × UInt16)} {discriminator : BitVec 12},
      (encode check onboarding.passcode.toNat discriminator ids).length = 11 → ids = none := by
    intro ids discriminator h
    cases ids with
    | none => rfl
    | some ids => cases (length_encode _ _ _ _).symm.trans h
  obtain rfl := none_of (hdigits ▸ length)
  obtain rfl := none_of (hdigits' ▸ length')
  have hbits : discriminator.toNat >>> 8 = discriminator'.toNat >>> 8 := by
    have h := congrArg UInt8.toNat (hshort.symm.trans hshort')
    have hdisc := discriminator.isLt
    have hdisc' := discriminator'.isLt
    rw [Nat.shiftRight_eq_div_pow, Nat.shiftRight_eq_div_pow] at *
    rwa [UInt8.toNat_ofNat_of_lt' (by rw [UInt8.size]; omega),
      UInt8.toNat_ofNat_of_lt' (by rw [UInt8.size]; omega)] at h
  rw [hdigits, hdigits', encode_congr check _ none hbits]

end Accepted

/-- **An accepted code is well formed exactly if its digits are in range**, which not all checks enforce; and
of codes in range, no two of eleven digits decode to the same. -/
theorem accepted_wellFormed_iff (check : CheckDigit) :
    (∀ raw digits onboarding, digitsOf raw = some digits → parseManualCode check raw = .ok onboarding →
      (WellFormed check digits onboarding ↔ InRange digits)) ∧
    ∀ raw raw' digits digits' onboarding, digitsOf raw = some digits → digitsOf raw' = some digits' →
      parseManualCode check raw = .ok onboarding → parseManualCode check raw' = .ok onboarding →
      digits.length = 11 → digits'.length = 11 → InRange digits → InRange digits' → digits = digits' := by
  have accepted : ∀ {raw digits onboarding}, digitsOf raw = some digits →
      parseManualCode check raw = .ok onboarding →
      Accepted check digits onboarding ∧ ∀ d ∈ digits, d < 10 := by
    intro raw digits onboarding h parsed
    rw [parseManualCode_eq check h] at parsed
    exact ⟨accepted_of_decodeDigits parsed, (eq_map_digitChar h).2⟩
  constructor
  · intro raw digits onboarding h parsed
    obtain ⟨passed, hlt⟩ := accepted h parsed
    constructor
    · rintro ⟨discriminator, ids, hdigits, -, -, hsmall, -⟩
      rw [hdigits]
      exact inRange_encode check hsmall discriminator ids
    · exact passed.wellFormed hlt
  · intro raw raw' digits digits' onboarding h h' parsed parsed' length length' range range'
    obtain ⟨passed, hlt⟩ := accepted h parsed
    obtain ⟨passed', hlt'⟩ := accepted h' parsed'
    exact passed.injective hlt hlt' passed' length length' range range'

/-- **A first digit that is too wide**: it is no encoding, and decodes like another code. -/
theorem wide_digit_accepted :
    parseManualCode Reference.verhoeff "84970112331" = .ok { passcode := 20202021, shortDiscriminator := 3 } ∧
      parseManualCode Reference.verhoeff "04970112335" =
        .ok { passcode := 20202021, shortDiscriminator := 3 } ∧
      digitsOf "84970112331" = some [8, 4, 9, 7, 0, 1, 1, 2, 3, 3, 1] ∧
      ¬ WellFormed Reference.verhoeff [8, 4, 9, 7, 0, 1, 1, 2, 3, 3, 1]
        { passcode := 20202021, shortDiscriminator := 3 } := by
  refine ⟨by decide +kernel, by decide +kernel, by decide +kernel, ?_⟩
  rintro ⟨discriminator, ids, hdigits, -⟩
  have hfirst := (parts_encode Reference.verhoeff 20202021 discriminator ids).first_eq
  have hdisc := discriminator.isLt
  rw [← show _ = encode Reference.verhoeff 20202021 discriminator ids from hdigits] at hfirst
  have height : 8 = (if ids.isSome then 4 else 0) + discriminator.toNat / 1024 := hfirst
  split at height <;> omega

/-- The test code of the specification is well formed. -/
theorem test_code_wellFormed : WellFormed Reference.verhoeff [3, 4, 9, 7, 0, 1, 1, 2, 3, 3, 2]
    { passcode := 20202021, shortDiscriminator := 15 } :=
  ((accepted_wellFormed_iff Reference.verhoeff).1 "34970112332" _ _ (by decide +kernel)
    (by decide +kernel)).mpr
    ⟨by decide, by decide, by decide, by decide, by decide, by decide⟩

end MatterTimeCtl
