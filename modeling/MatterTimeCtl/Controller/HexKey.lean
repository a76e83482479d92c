/-
# MatterTimeCtl.Controller.HexKey — which strings the root key is read from.

`hexDecode` slices a string at every second byte and hands each slice to the integer parser.  A slice that ends
inside a character panics, and the parser takes a plus sign in front of a digit.  `CutsCharacter` and
`TakesPairs` say on characters where the two happen; on every other string the decoder is exact
(`hexDecode_exact_iff`).
-/
import MatterTimeCtl.Controller.Fabric

namespace MatterTimeCtl

/-! ## Bytes of characters -/

theorem length_utf8 (s : String) : (utf8 s.toList).length = s.utf8ByteSize := by
  rw [← toUTF8_toList, Array.length_toList]
  rfl

theorem utf8_cons (c : Char) (cs : List Char) : utf8 (c :: cs) = String.utf8EncodeChar c ++ utf8 cs :=
  List.flatMap_cons

theorem isContinuation_low (b : UInt8) : isContinuation (b &&& 0x3f ||| 0x80) = true := by
  have hall : ∀ n : Fin 256, isContinuation (UInt8.ofNat n.val &&& 0x3f ||| 0x80) = true := by decide +kernel
  have h := hall ⟨b.toNat, b.toNat_lt⟩
  rwa [UInt8.ofNat_toNat] at h

theorem isContinuation_of_first {b : UInt8} (h : b.IsUTF8FirstByte) : isContinuation b = false := by
  have hall : ∀ n : Fin 256, (UInt8.ofNat n.val).IsUTF8FirstByte →
      isContinuation (UInt8.ofNat n.val) = false := by decide +kernel
  have hb := hall ⟨b.toNat, b.toNat_lt⟩
  rw [UInt8.ofNat_toNat] at hb
  exact hb h

/-- A slice that ends where a character ends is one. -/
theorem utf8_head (cs : List Char) : ((utf8 cs).head?.map isContinuation).getD false = false := by
  cases cs with
  | nil => rfl
  | cons c cs =>
      have hfirst := UInt8.isUTF8FirstByte_getElem_zero_utf8EncodeChar (c := c)
      rw [utf8_cons]
      cases hbytes : String.utf8EncodeChar c with
      | nil =>
          have hlength := String.length_utf8EncodeChar c
          rw [hbytes, List.length_nil] at hlength
          exact absurd hlength.symm (Nat.ne_of_gt c.utf8Size_pos)
      | cons b bytes =>
          simp only [hbytes, List.getElem_cons_zero] at hfirst
          simp only [List.cons_append, List.head?_cons, Option.map_some, Option.getD_some,
            isContinuation_of_first hfirst]

/-- A character of one byte, and its byte. -/
theorem utf8EncodeChar_ascii {c : Char} (h : c.utf8Size = 1) :
    c.toNat < 128 ∧ String.utf8EncodeChar c = [UInt8.ofNat c.toNat] := by
  refine ⟨?_, String.utf8EncodeChar_eq_singleton h⟩
  have hle := Char.utf8Size_eq_one_iff.mp h
  rw [UInt32.le_iff_toNat_le] at hle
  exact Nat.lt_succ_of_le hle

/-- A longer character: its second byte lies inside it. -/
theorem utf8EncodeChar_wide {c : Char} (h : 2 ≤ c.utf8Size) : ∃ x y bytes,
    String.utf8EncodeChar c = x :: y :: bytes ∧ isContinuation y = true ∧ 192 ≤ x ∧
      (c.utf8Size = 2 → bytes = []) ∧
      (3 ≤ c.utf8Size → (bytes.head?.map isContinuation).getD false = true) := by
  have high (b : UInt8) : 192 ≤ b &&& 0x1f ||| 0xc0 ∧ 192 ≤ b &&& 0x0f ||| 0xe0 ∧
      192 ≤ b &&& 0x07 ||| 0xf0 := by
    have hall : ∀ n : Fin 256, 192 ≤ UInt8.ofNat n.val &&& 0x1f ||| 0xc0 ∧
        192 ≤ UInt8.ofNat n.val &&& 0x0f ||| 0xe0 ∧ 192 ≤ UInt8.ofNat n.val &&& 0x07 ||| 0xf0 := by
      decide +kernel
    have hb := hall ⟨b.toNat, b.toNat_lt⟩
    rwa [UInt8.ofNat_toNat] at hb
  have hle := c.utf8Size_le_four
  have hsize : c.utf8Size = 2 ∨ c.utf8Size = 3 ∨ c.utf8Size = 4 := by omega
  rcases hsize with h₂ | h₃ | h₄
  · exact ⟨_, _, _, String.utf8EncodeChar_eq_cons_cons h₂, isContinuation_low _, (high _).1, fun _ => rfl,
      fun h₃ => absurd h₃ (by omega)⟩
  · refine ⟨_, _, _, String.utf8EncodeChar_eq_cons_cons_cons h₃, isContinuation_low _, (high _).2.1,
      fun h₂ => absurd h₂ (by omega), fun _ => ?_⟩
    rw [List.head?_cons, Option.map_some, isContinuation_low, Option.getD_some]
  · refine ⟨_, _, _, String.utf8EncodeChar_eq_cons_cons_cons_cons h₄, isContinuation_low _, (high _).2.2,
      fun h₂ => absurd h₂ (by omega), fun _ => ?_⟩
    rw [List.head?_cons, Option.map_some, isContinuation_low, Option.getD_some]

/-! ## Pairs of characters -/

/-- A hexadecimal digit, in either case. -/
def IsHexDigit (c : Char) : Prop :=
  ('0' ≤ c ∧ c ≤ '9') ∨ ('a' ≤ c ∧ c ≤ 'f') ∨ ('A' ≤ c ∧ c ≤ 'F')

instance (c : Char) : Decidable (IsHexDigit c) := by
  unfold IsHexDigit
  infer_instance

/-- Two characters that the integer parser takes: digits, the first of which may be a plus sign. -/
def TakesPair (a b : Char) : Prop := (IsHexDigit a ∨ a = '+') ∧ IsHexDigit b

/-- Nothing but such pairs. -/
def TakesPairs : List Char → Prop
  | [] => True
  | [_] => False
  | a :: b :: rest => TakesPair a b ∧ TakesPairs rest

/-- After some such pairs, the next two bytes end inside a character. -/
def CutsCharacter : List Char → Prop
  | [] => False
  | [c] => 3 ≤ c.utf8Size
  | a :: b :: rest =>
    3 ≤ a.utf8Size ∨ (a.utf8Size = 1 ∧ 2 ≤ b.utf8Size) ∨ (TakesPair a b ∧ CutsCharacter rest)

theorem fromHexDigit_ascii {c : Char} (h : c.toNat < 128) :
    if IsHexDigit c then ∃ v, fromHexDigit (UInt8.ofNat c.toNat) = some v ∧ v.toNat < 16 ∧
      v.toNat.digitChar = c.toLower
    else fromHexDigit (UInt8.ofNat c.toNat) = none := by
  have hall : ∀ n : Fin 128, if IsHexDigit (Char.ofNat n.val) then
      ∃ v : Fin 16, fromHexDigit (UInt8.ofNat n.val) = some (UInt8.ofNat v.val) ∧
        v.val.digitChar = (Char.ofNat n.val).toLower
      else fromHexDigit (UInt8.ofNat n.val) = none := by decide +kernel
  have hc := hall ⟨c.toNat, h⟩
  rw [Char.ofNat_toNat] at hc
  split
  · rename_i hex
    rw [if_pos hex] at hc
    obtain ⟨v, hv, hdigit⟩ := hc
    have hnat : (UInt8.ofNat v.val).toNat = v.val :=
      UInt8.toNat_ofNat_of_lt' (Nat.lt_trans v.isLt (by decide))
    exact ⟨_, hv, by rw [hnat]; exact v.isLt, by rw [hnat]; exact hdigit⟩
  · rename_i hex
    rwa [if_neg hex] at hc

theorem ofNat_eq_plus_iff {c : Char} (h : c.toNat < 128) : UInt8.ofNat c.toNat = 43 ↔ c = '+' := by
  have hall : ∀ n : Fin 128, UInt8.ofNat n.val = 43 ↔ Char.ofNat n.val = '+' := by decide +kernel
  have hc := hall ⟨c.toNat, h⟩
  rwa [Char.ofNat_toNat] at hc

/-- Two digits are read as the byte that they spell; a plus sign and a digit are read as well. -/
theorem fromHexPair_takes {a b : Char} (ha : a.toNat < 128) (hb : b.toNat < 128) (takes : TakesPair a b) :
    ∃ v, fromHexPair (UInt8.ofNat a.toNat) (UInt8.ofNat b.toNat) = some v ∧
      (a ≠ '+' → hexByte v = [a.toLower, b.toLower]) := by
  have hlow := fromHexDigit_ascii hb
  rw [if_pos takes.2] at hlow
  obtain ⟨lo, hlo, hlt, hdigit⟩ := hlow
  by_cases plus : a = '+'
  · refine ⟨lo, ?_, fun h => absurd plus h⟩
    rw [fromHexPair, if_pos ((ofNat_eq_plus_iff ha).mpr plus), hlo]
  · have hhigh := fromHexDigit_ascii ha
    rw [if_pos (takes.1.resolve_right plus)] at hhigh
    obtain ⟨hi, hhi, hlt', hdigit'⟩ := hhigh
    have hv : (hi * 16 + lo).toNat = hi.toNat * 16 + lo.toNat := by
      rw [UInt8.toNat_add, UInt8.toNat_mul]
      show (hi.toNat * 16 % 2 ^ 8 + lo.toNat) % 2 ^ 8 = _
      omega
    refine ⟨hi * 16 + lo, ?_, fun _ => ?_⟩
    · rw [fromHexPair, if_neg (mt (ofNat_eq_plus_iff ha).mp plus), hhi, hlo]
      rfl
    · have hdiv : (hi.toNat * 16 + lo.toNat) / 16 = hi.toNat := by omega
      have hmod : (hi.toNat * 16 + lo.toNat) % 16 = lo.toNat := by omega
      rw [hexByte, hv, hdiv, hmod, hdigit, hdigit']

theorem fromHexPair_refuses {a b : Char} (ha : a.toNat < 128) (hb : b.toNat < 128)
    (refuses : ¬ TakesPair a b) : fromHexPair (UInt8.ofNat a.toNat) (UInt8.ofNat b.toNat) = none := by
  have hhigh := fromHexDigit_ascii ha
  have hlow := fromHexDigit_ascii hb
  by_cases plus : a = '+'
  · have hex : ¬ IsHexDigit b := fun h => refuses ⟨.inr plus, h⟩
    rw [if_neg hex] at hlow
    rw [fromHexPair, if_pos ((ofNat_eq_plus_iff ha).mpr plus), hlow]
  · rw [fromHexPair, if_neg (mt (ofNat_eq_plus_iff ha).mp plus)]
    by_cases hex : IsHexDigit a
    · have hex' : ¬ IsHexDigit b := fun h => refuses ⟨.inl hex, h⟩
      rw [if_pos hex] at hhigh
      rw [if_neg hex'] at hlow
      obtain ⟨hi, hhi, -⟩ := hhigh
      rw [hhi, hlow]
      rfl
    · rw [if_neg hex] at hhigh
      rw [hhigh]
      rfl

/-- A byte of a longer character is no digit and no plus sign. -/
theorem fromHexPair_wide {x y : UInt8} (h : 192 ≤ x) : fromHexPair x y = none := by
  have hall : ∀ n : Fin 256, 192 ≤ UInt8.ofNat n.val →
      UInt8.ofNat n.val ≠ 43 ∧ fromHexDigit (UInt8.ofNat n.val) = none := by decide +kernel
  have hx := hall ⟨x.toNat, x.toNat_lt⟩
  rw [UInt8.ofNat_toNat] at hx
  obtain ⟨hplus, hdigit⟩ := hx h
  rw [fromHexPair, if_neg hplus, hdigit]
  rfl

/-! ## Decoding characters -/

theorem IsHexDigit.utf8Size {c : Char} (h : IsHexDigit c) : c.utf8Size = 1 := by
  rw [Char.utf8Size_eq_one_iff, UInt32.le_iff_toNat_le]
  rcases h with ⟨-, h⟩ | ⟨-, h⟩ | ⟨-, h⟩
  all_goals
    have hle := UInt32.le_iff_toNat_le.mp h
    exact Nat.le_trans hle (by decide)

theorem TakesPair.utf8Size {a b : Char} (h : TakesPair a b) : a.utf8Size = 1 ∧ b.utf8Size = 1 := by
  refine ⟨?_, h.2.utf8Size⟩
  rcases h.1 with hex | rfl
  · exact hex.utf8Size
  · decide

theorem utf8_pair {a b : Char} (cs : List Char) (ha : a.utf8Size = 1) (hb : b.utf8Size = 1) :
    utf8 (a :: b :: cs) = UInt8.ofNat a.toNat :: UInt8.ofNat b.toNat :: utf8 cs := by
  rw [utf8_cons, utf8_cons, (utf8EncodeChar_ascii ha).2, (utf8EncodeChar_ascii hb).2]
  rfl

theorem hexDecodePairs_takes {a b : Char} (cs : List Char) (takes : TakesPair a b) :
    ∃ v, hexDecodePairs (utf8 (a :: b :: cs)) = (hexDecodePairs (utf8 cs)).map (v :: ·) ∧
      (a ≠ '+' → hexByte v = [a.toLower, b.toLower]) := by
  obtain ⟨ha, hb⟩ := takes.utf8Size
  obtain ⟨v, hv, hbyte⟩ :=
    fromHexPair_takes (utf8EncodeChar_ascii ha).1 (utf8EncodeChar_ascii hb).1 takes
  refine ⟨v, ?_, hbyte⟩
  rw [utf8_pair cs ha hb, hexDecodePairs, utf8_head, hv]
  rfl

theorem hexDecodePairs_refuses {a b : Char} (cs : List Char) (ha : a.utf8Size = 1) (hb : b.utf8Size = 1)
    (refuses : ¬ TakesPair a b) : hexDecodePairs (utf8 (a :: b :: cs)) =
      .error (.context "bad hex digit" (.message "invalid digit found in string")) := by
  have hnone := fromHexPair_refuses (utf8EncodeChar_ascii ha).1 (utf8EncodeChar_ascii hb).1 refuses
  rw [utf8_pair cs ha hb, hexDecodePairs, utf8_head, hnone]
  rfl

theorem hexDecodePairs_cut {x y : UInt8} {rest : List UInt8}
    (h : (rest.head?.map isContinuation).getD false = true) :
    hexDecodePairs (x :: y :: rest) = .error .panicked := by
  rw [hexDecodePairs, h]
  rfl

theorem hexDecodePairs_three {c : Char} (cs : List Char) (h : 3 ≤ c.utf8Size) :
    hexDecodePairs (utf8 (c :: cs)) = .error .panicked := by
  obtain ⟨x, y, bytes, hbytes, -, -, -, hcut⟩ := utf8EncodeChar_wide (show 2 ≤ c.utf8Size by omega)
  have hnext := hcut h
  rw [utf8_cons, hbytes]
  apply hexDecodePairs_cut
  cases bytes with
  | nil => exact absurd hnext (by decide)
  | cons b bytes => exact hnext

theorem hexDecodePairs_one_wide {a b : Char} (cs : List Char) (ha : a.utf8Size = 1) (hb : 2 ≤ b.utf8Size) :
    hexDecodePairs (utf8 (a :: b :: cs)) = .error .panicked := by
  obtain ⟨x, y, bytes, hbytes, hcont, -⟩ := utf8EncodeChar_wide hb
  rw [utf8_cons, utf8_cons, (utf8EncodeChar_ascii ha).2, hbytes]
  apply hexDecodePairs_cut
  show (some (isContinuation y)).getD false = true
  rw [hcont]
  rfl

theorem hexDecodePairs_two {c : Char} (cs : List Char) (h : c.utf8Size = 2) :
    hexDecodePairs (utf8 (c :: cs)) =
      .error (.context "bad hex digit" (.message "invalid digit found in string")) := by
  obtain ⟨x, y, bytes, hbytes, -, hhigh, htwo, -⟩ := utf8EncodeChar_wide (show 2 ≤ c.utf8Size by omega)
  rw [utf8_cons, hbytes, htwo h]
  show hexDecodePairs (x :: y :: utf8 cs) = _
  rw [hexDecodePairs, utf8_head, fromHexPair_wide hhigh]
  rfl

/-- Pairs that are taken are decoded, without a plus sign to the bytes that they spell. -/
theorem hexDecodePairs_of_paired {cs : List Char} (h : TakesPairs cs) :
    ∃ bytes, hexDecodePairs (utf8 cs) = .ok bytes ∧
      ('+' ∉ cs → bytes.flatMap hexByte = cs.map Char.toLower) := by
  induction cs using TakesPairs.induct with
  | case1 => exact ⟨[], rfl, fun _ => rfl⟩
  | case2 c => exact h.elim
  | case3 a b rest ih =>
      obtain ⟨takes, hrest⟩ := h
      obtain ⟨bytes, hbytes, hspell⟩ := ih hrest
      obtain ⟨v, hv, hbyte⟩ := hexDecodePairs_takes rest takes
      refine ⟨v :: bytes, by rw [hv, hbytes]; rfl, fun plus => ?_⟩
      rw [List.mem_cons, List.mem_cons, not_or, not_or] at plus
      rw [List.flatMap_cons, hbyte (Ne.symm plus.1), hspell plus.2.2]
      rfl

theorem hexDecodePairs_of_cuts {cs : List Char} (h : CutsCharacter cs) :
    hexDecodePairs (utf8 cs) = .error .panicked := by
  induction cs using CutsCharacter.induct with
  | case1 => exact h.elim
  | case2 c => exact hexDecodePairs_three [] h
  | case3 a b rest ih =>
      rcases h with three | ⟨one, wide⟩ | ⟨takes, hrest⟩
      · exact hexDecodePairs_three _ three
      · exact hexDecodePairs_one_wide rest one wide
      · obtain ⟨v, hv, -⟩ := hexDecodePairs_takes rest takes
        rw [hv, ih hrest]
        rfl

/-- Everything else is refused. -/
theorem hexDecodePairs_of_neither {cs : List Char} (even : (utf8 cs).length % 2 = 0)
    (paired : ¬ TakesPairs cs) (cuts : ¬ CutsCharacter cs) :
    ∃ e, hexDecodePairs (utf8 cs) = .error e ∧ e ≠ .panicked := by
  -- by the recursion that looks for a cut character: two characters at a time
  induction cs using CutsCharacter.induct with
  | case1 => exact absurd trivial paired
  | case2 c =>
      have hpos := c.utf8Size_pos
      have hsize : c.utf8Size < 3 := Nat.lt_of_not_le cuts
      have hlength : (utf8 [c]).length = c.utf8Size := by
        rw [utf8_cons, List.length_append, String.length_utf8EncodeChar]
        rfl
      have htwo : c.utf8Size = 2 := by omega
      exact ⟨_, hexDecodePairs_two [] htwo, nofun⟩
  | case3 a b rest ih =>
      rw [CutsCharacter, not_or, not_or] at cuts
      obtain ⟨hsize, hwide, hrest⟩ := cuts
      have hpos := a.utf8Size_pos
      have hpos' := b.utf8Size_pos
      by_cases htwo : a.utf8Size = 2
      · exact ⟨_, hexDecodePairs_two _ htwo, nofun⟩
      · have ha : a.utf8Size = 1 := by omega
        have hb : b.utf8Size = 1 := by
          by_contra hb
          exact hwide ⟨ha, by omega⟩
        by_cases takes : TakesPair a b
        · have even' : (utf8 rest).length % 2 = 0 := by
            rw [utf8_pair rest ha hb, List.length_cons, List.length_cons] at even
            omega
          obtain ⟨e, he, hne⟩ := ih even' (fun h => paired ⟨takes, h⟩) fun h => hrest ⟨takes, h⟩
          obtain ⟨v, hv, -⟩ := hexDecodePairs_takes rest takes
          exact ⟨e, by rw [hv, he]; rfl, hne⟩
        · exact ⟨_, hexDecodePairs_refuses rest ha hb takes, nofun⟩

theorem length_utf8_of_paired {cs : List Char} (h : TakesPairs cs) : (utf8 cs).length % 2 = 0 := by
  induction cs using TakesPairs.induct with
  | case1 => rfl
  | case2 c => exact h.elim
  | case3 a b rest ih =>
      obtain ⟨ha, hb⟩ := h.1.utf8Size
      rw [utf8_pair rest ha hb, List.length_cons, List.length_cons, Nat.add_assoc, Nat.add_mod_right]
      exact ih h.2

/-! ## The exact strings -/

/-- Hexadecimal: of even length, and nothing but digits. -/
def Hexadecimal (s : String) : Prop := s.length % 2 = 0 ∧ ∀ c ∈ s.toList, IsHexDigit c

theorem hexDigits_iff_paired {cs : List Char} :
    (cs.length % 2 = 0 ∧ ∀ c ∈ cs, IsHexDigit c) ↔ TakesPairs cs ∧ '+' ∉ cs := by
  induction cs using TakesPairs.induct with
  | case1 => simp [TakesPairs]
  | case2 c => simp [TakesPairs]
  | case3 a b rest ih =>
      have hplus : ¬ IsHexDigit '+' := by decide
      have hlength : (a :: b :: rest).length % 2 = rest.length % 2 := by
        rw [List.length_cons, List.length_cons, Nat.add_assoc, Nat.add_mod_right]
      rw [hlength, List.forall_mem_cons, List.forall_mem_cons, TakesPairs, TakesPair, List.mem_cons, List.mem_cons]
      constructor
      · rintro ⟨even, ha, hb, hrest⟩
        obtain ⟨paired, hmem⟩ := ih.mp ⟨even, hrest⟩
        refine ⟨⟨⟨.inl ha, hb⟩, paired⟩, ?_⟩
        rintro (rfl | rfl | hmem')
        · exact hplus ha
        · exact hplus hb
        · exact hmem hmem'
      · rintro ⟨⟨⟨ha, hb⟩, paired⟩, hmem⟩
        rw [not_or, not_or] at hmem
        obtain ⟨even, hrest⟩ := ih.mpr ⟨paired, hmem.2.2⟩
        exact ⟨even, ha.resolve_right (Ne.symm hmem.1), hb, hrest⟩

theorem hexadecimal_iff (s : String) : Hexadecimal s ↔ TakesPairs s.toList ∧ '+' ∉ s.toList := by
  rw [← hexDigits_iff_paired, Hexadecimal, String.length_toList]

/-- What the decoder and the key reader promise of a string. -/
structure HexExact (s : String) : Prop where
  total : hexDecode s ≠ .error .panicked
  accepts : (∃ bytes, hexDecode s = .ok bytes) ↔ Hexadecimal s
  spells : ∀ bytes, hexDecode s = .ok bytes → hexEncode bytes = s.toLower
  key : ∀ identity : Identity, identity.rcacPrivkeyHex = s → identity.rcacPrivkey ≠ .error .panicked ∧
    ∀ priv, identity.rcacPrivkey = .ok priv → hexEncode priv.toList = s.toLower

/-- Of an even number of bytes, and either cut inside a character, after pairs that are taken, or taken in full
with a plus sign in it. -/
def Misread (s : String) : Prop :=
  s.utf8ByteSize % 2 = 0 ∧ (CutsCharacter s.toList ∨ (TakesPairs s.toList ∧ '+' ∈ s.toList))

theorem hexDecode_even {s : String} (even : s.utf8ByteSize % 2 = 0) :
    hexDecode s = hexDecodePairs (utf8 s.toList) := by
  rw [hexDecode, if_neg (not_not.mpr even), toUTF8_toList]

theorem hexDecode_odd {s : String} (odd : ¬ s.utf8ByteSize % 2 = 0) :
    hexDecode s = .error (.message "odd-length hex") := by
  rw [hexDecode, if_pos odd]

theorem rcacPrivkey_ok {identity : Identity} {priv : PrivKey} (h : identity.rcacPrivkey = .ok priv) :
    hexDecode identity.rcacPrivkeyHex = .ok priv.toList := by
  unfold Identity.rcacPrivkey at h
  split at h
  · cases h
  · cases h
  · rename_i bytes hbytes
    split at h
    · cases h
      exact hbytes
    · cases h

theorem rcacPrivkey_panicked {identity : Identity} (h : identity.rcacPrivkey = .error .panicked) :
    hexDecode identity.rcacPrivkeyHex = .error .panicked := by
  unfold Identity.rcacPrivkey at h
  split at h
  · assumption
  · cases h
  · split at h <;> cases h

/-- **What the decoder panics on**: an even number of bytes that, after pairs that are taken, are cut inside a
character. -/
theorem hexDecode_eq_panicked_iff (s : String) :
    hexDecode s = .error .panicked ↔ s.utf8ByteSize % 2 = 0 ∧ CutsCharacter s.toList := by
  constructor
  · intro panics
    by_cases even : s.utf8ByteSize % 2 = 0
    · refine ⟨even, ?_⟩
      by_contra cuts
      rw [hexDecode_even even] at panics
      by_cases paired : TakesPairs s.toList
      · obtain ⟨bytes, hbytes, -⟩ := hexDecodePairs_of_paired paired
        rw [hbytes] at panics
        cases panics
      · have even' : (utf8 s.toList).length % 2 = 0 := by rwa [length_utf8]
        obtain ⟨e, he, hne⟩ := hexDecodePairs_of_neither even' paired cuts
        rw [he] at panics
        exact hne (Except.error.inj panics)
    · rw [hexDecode_odd even] at panics
      cases panics
  · rintro ⟨even, cuts⟩
    rw [hexDecode_even even]
    exact hexDecodePairs_of_cuts cuts

theorem rcacPrivkey_eq_panicked_iff (identity : Identity) :
    identity.rcacPrivkey = .error .panicked ↔ hexDecode identity.rcacPrivkeyHex = .error .panicked := by
  constructor
  · exact rcacPrivkey_panicked
  · intro h
    rw [Identity.rcacPrivkey, h]

/-- A string that is decoded as it should be gives the key as it should be. -/
theorem HexExact.of_decode {s : String} (total : hexDecode s ≠ .error .panicked)
    (accepts : (∃ bytes, hexDecode s = .ok bytes) ↔ Hexadecimal s)
    (spells : ∀ bytes, hexDecode s = .ok bytes → hexEncode bytes = s.toLower) : HexExact s := by
  refine ⟨total, accepts, spells, fun identity stored => ⟨fun panicked => ?_, fun priv read => ?_⟩⟩
  · have h := rcacPrivkey_panicked panicked
    rw [stored] at h
    exact total h
  · have h := rcacPrivkey_ok read
    rw [stored] at h
    exact spells _ h

theorem hexEncode_eq_toLower {s : String} {bytes : List UInt8}
    (h : bytes.flatMap hexByte = s.toList.map Char.toLower) : hexEncode bytes = s.toLower := by
  rw [hexEncode, h, String.toLower, ← String.toList_map, String.ofList_toList]

theorem hexExact_of_not_misread {s : String} (h : ¬ Misread s) : HexExact s := by
  -- an odd number of bytes is refused at once; pairs are decoded; anything else runs into a bad digit
  by_cases even : s.utf8ByteSize % 2 = 0
  · have cuts : ¬ CutsCharacter s.toList := fun cuts => h ⟨even, .inl cuts⟩
    have plus : TakesPairs s.toList → '+' ∉ s.toList := fun paired plus => h ⟨even, .inr ⟨paired, plus⟩⟩
    by_cases paired : TakesPairs s.toList
    · obtain ⟨bytes, hbytes, hspell⟩ := hexDecodePairs_of_paired paired
      rw [← hexDecode_even even] at hbytes
      have accepted : Hexadecimal s := (hexadecimal_iff s).mpr ⟨paired, plus paired⟩
      refine .of_decode (by rw [hbytes]; exact nofun) (iff_of_true ⟨bytes, hbytes⟩ accepted) ?_
      intro bytes' hbytes'
      rw [hbytes] at hbytes'
      cases hbytes'
      exact hexEncode_eq_toLower (hspell (plus paired))
    · have even' : (utf8 s.toList).length % 2 = 0 := by rwa [length_utf8]
      obtain ⟨e, he, hne⟩ := hexDecodePairs_of_neither even' paired cuts
      rw [← hexDecode_even even] at he
      have refused : ¬ Hexadecimal s := fun hex => paired ((hexadecimal_iff s).mp hex).1
      refine .of_decode (by rw [he]; exact fun h => hne (Except.error.inj h)) (iff_of_false ?_ refused) ?_
      · rintro ⟨bytes, hbytes⟩
        rw [he] at hbytes
        cases hbytes
      · intro bytes hbytes
        rw [he] at hbytes
        cases hbytes
  · have hodd := hexDecode_odd even
    have refused : ¬ Hexadecimal s := by
      intro hex
      have paired := ((hexadecimal_iff s).mp hex).1
      refine even ?_
      rw [← length_utf8]
      exact length_utf8_of_paired paired
    refine .of_decode (by rw [hodd]; exact nofun) (iff_of_false ?_ refused) ?_
    · rintro ⟨bytes, hbytes⟩
      rw [hodd] at hbytes
      cases hbytes
    · intro bytes hbytes
      rw [hodd] at hbytes
      cases hbytes

/-- **The hexadecimal codec.**  What was encoded is decoded; and the decoder, with the key reader on top of it,
is exact on a string unless that is misread. -/
theorem hexDecode_exact_iff (bytes : List UInt8) (s : String) :
    hexDecode (hexEncode bytes) = .ok bytes ∧ (HexExact s ↔ ¬ Misread s) := by
  refine ⟨hexDecode_hexEncode bytes, ?_, hexExact_of_not_misread⟩
  rintro exact_ ⟨even, cuts | ⟨paired, plus⟩⟩
  · refine exact_.total ?_
    rw [hexDecode_even even]
    exact hexDecodePairs_of_cuts cuts
  · obtain ⟨bytes, hbytes, -⟩ := hexDecodePairs_of_paired paired
    rw [← hexDecode_even even] at hbytes
    exact ((hexadecimal_iff s).mp (exact_.accepts.mp ⟨bytes, hbytes⟩)).2 plus

/-- A key file with a letter that is not ASCII ends the program, and a plus sign stands for a digit. -/
theorem accented_key_panics : hexDecode "a\u00e9b" = .error .panicked ∧ ¬ HexExact "a\u00e9b" ∧
    hexDecode "+f" = .ok [15] ∧ ¬ HexExact "+f" := by
  have panics : hexDecode "a\u00e9b" = .error .panicked := by decide +kernel
  have accepted : hexDecode "+f" = .ok [15] := by decide +kernel
  refine ⟨panics, fun h => h.total panics, accepted, fun h => ?_⟩
  have hex := (h.accepts.mp ⟨_, accepted⟩).2 '+' (by decide +kernel)
  exact absurd hex (by decide)

end MatterTimeCtl
