/-
# MatterTimeCtl.WallClockGrammar — which strings `parseWallClock` accepts.

`Grammatical` is the grammar: fields of digits with colons between them, an optional suffix, and the 24-hour time
they denote.  The parser reads each field as the integer parser of the language does, which takes a plus
sign in front as well; that is the whole difference (`parseWallClock_grammatical_iff`).
-/
import MatterTimeCtl.WallClock

namespace MatterTimeCtl

open Text

/-! ## The grammar -/

/-- The suffixes, with whether each stands for afternoon. -/
def suffixes : List (List Char × Option Bool) :=
  [([], none), (['a'], some false), (['a', 'm'], some false), (['p'], some true), (['p', 'm'], some true)]

/-- The text is these fields, with colons between them, and a suffix after optional whitespace. -/
def Spells (text : List Char) (fields : List (List Char)) (meridiem : Option Bool) : Prop :=
  ∃ space suffix, text = [':'].intercalate fields ++ (space ++ suffix) ∧ (suffix, meridiem) ∈ suffixes ∧
    (∀ c ∈ space, isWhitespace c = true) ∧ (suffix = [] → space = [])

/-- One or more digits. -/
def IsNumeral (field : List Char) : Prop := field ≠ [] ∧ ∀ c ∈ field, c.isDigit = true

/-- The number that digits spell; no digits spell 0. -/
def numeral (field : List Char) : Nat := Nat.ofDigitChars 10 field 0

/-- The hour on the 24-hour clock that an hour and a suffix denote. -/
def HourDenotes : Option Bool → Nat → Nat → Prop
  | none, h, hour => hour = h
  | some false, h, hour => 1 ≤ h ∧ h ≤ 12 ∧ hour = if h = 12 then 0 else h
  | some true, h, hour => 1 ≤ h ∧ h ≤ 12 ∧ hour = if h = 12 then 12 else h + 12

/-- The time of day that two or three fields and a suffix denote; missing seconds are 0. -/
structure Denotes (fields : List (List Char)) (meridiem : Option Bool) (wall : CivilTime) : Prop where
  count : fields.length = 2 ∨ fields.length = 3
  hour : HourDenotes meridiem (numeral (fields.getD 0 [])) wall.hour
  minute : wall.minute = numeral (fields.getD 1 [])
  second : wall.second = numeral (fields.getD 2 [])

/-- The input, trimmed and in lower case. -/
def lowered (input : String) : List Char := (trim input.toList).map Char.toLower

/-- **The grammar** with its meaning. -/
def Grammatical (input : String) (wall : CivilTime) : Prop :=
  ∃ fields meridiem, Spells (lowered input) fields meridiem ∧ (∀ f ∈ fields, IsNumeral f) ∧
    Denotes fields meridiem wall

/-- The same where each field may have a plus sign in front. -/
def GrammaticalSigned (input : String) (fields : List (List Char)) (wall : CivilTime) : Prop :=
  ∃ meridiem, Spells (lowered input) fields meridiem ∧ (∀ f ∈ fields, IsNumeral (dropPlus f)) ∧
    Denotes (fields.map dropPlus) meridiem wall

/-! ## Suffixes -/

theorem stripSuffix_append (suffix rest : List Char) : stripSuffix suffix (rest ++ suffix) = some rest := by
  rw [stripSuffix, if_pos (List.isSuffixOf_iff_suffix.mpr (List.suffix_append _ _)), List.length_append,
    Nat.add_sub_cancel, List.take_left' rfl]

theorem eq_append_of_stripSuffix {suffix cs rest : List Char} (h : stripSuffix suffix cs = some rest) :
    cs = rest ++ suffix := by
  unfold stripSuffix at h
  split at h
  · rename_i hsuffix
    obtain ⟨pre, rfl⟩ := List.isSuffixOf_iff_suffix.mp hsuffix
    obtain rfl := Option.some.inj h
    rw [List.length_append, Nat.add_sub_cancel, List.take_left' rfl]
  · cases h

/-- A text that does not end like the suffix does not have it. -/
theorem stripSuffix_eq_none {suffix cs : List Char} (h : ¬ suffix <:+ cs) : stripSuffix suffix cs = none := by
  rw [stripSuffix, if_neg]
  rwa [List.isSuffixOf_iff_suffix]

/-- What `trimEnd` takes away is whitespace. -/
theorem exists_trimEnd (cs : List Char) :
    ∃ space, cs = trimEnd cs ++ space ∧ ∀ c ∈ space, isWhitespace c = true := by
  refine ⟨(cs.reverse.takeWhile isWhitespace).reverse, ?_, ?_⟩
  · rw [trimEnd, ← List.reverse_append, List.takeWhile_append_dropWhile, List.reverse_reverse]
  · intro c hc
    exact List.mem_takeWhile_imp (List.mem_reverse.mp hc)

/-- Trimming takes away exactly the whitespace after a character that is none. -/
theorem trimEnd_append {cs : List Char} {last : Char} {space : List Char} (hlast : isWhitespace last = false)
    (hspace : ∀ c ∈ space, isWhitespace c = true) : trimEnd (cs ++ [last] ++ space) = cs ++ [last] := by
  rw [trimEnd, List.reverse_append, List.dropWhile_append_of_pos (by simpa using hspace)]
  simp [hlast]

/-- A character that fields can have and suffixes and separators cannot. -/
structure FieldChar (c : Char) : Prop where
  space : isWhitespace c = false
  colon : c ≠ ':'
  a : c ≠ 'a'
  m : c ≠ 'm'
  p : c ≠ 'p'

theorem fieldChar_of_isDigit {c : Char} (h : c.isDigit = true) : FieldChar c := by
  have hrange : '0'.toNat ≤ c.toNat ∧ c.toNat ≤ '9'.toNat := by
    simpa [Char.isDigit, Char.le_def, UInt32.le_iff_toNat_le] using h
  have hzero : '0'.toNat = 48 := by decide
  have hnine : '9'.toNat = 57 := by decide
  rw [hzero, hnine] at hrange
  refine ⟨?_, ?_, ?_, ?_, ?_⟩
  · simp only [isWhitespace, Bool.or_eq_false_iff, Bool.and_eq_false_iff, decide_eq_false_iff_not]
    omega
  · rintro rfl
    exact absurd h (by decide)
  · rintro rfl
    exact absurd h (by decide)
  · rintro rfl
    exact absurd h (by decide)
  · rintro rfl
    exact absurd h (by decide)

theorem fieldChar_of_numeral {field : List Char} (h : IsNumeral (dropPlus field)) :
    field ≠ [] ∧ ∀ c ∈ field, FieldChar c := by
  have hplus : FieldChar '+' := ⟨by decide, by decide, by decide, by decide, by decide⟩
  cases field with
  | nil => exact absurd rfl h.1
  | cons c cs =>
      refine ⟨List.cons_ne_nil c cs, ?_⟩
      by_cases hc : c = '+'
      · subst hc
        exact List.forall_mem_cons.mpr ⟨hplus, fun d hd => fieldChar_of_isDigit (h.2 d hd)⟩
      · rw [dropPlus_cons_of_ne cs hc] at h
        exact fun d hd => fieldChar_of_isDigit (h.2 d hd)

/-- Fields with colons between them end in a character of the last field. -/
theorem intercalate_ends {fields : List (List Char)} (hne : fields ≠ [])
    (h : ∀ f ∈ fields, f ≠ [] ∧ ∀ c ∈ f, FieldChar c) :
    ∃ rest last, [':'].intercalate fields = rest ++ [last] ∧ FieldChar last := by
  induction fields with
  | nil => exact absurd rfl hne
  | cons f fields ih =>
      cases fields with
      | nil =>
          obtain ⟨hf, hchars⟩ := h f List.mem_cons_self
          refine ⟨f.dropLast, f.getLast hf, ?_, hchars _ (List.getLast_mem hf)⟩
          rw [List.intercalate_singleton, List.dropLast_append_getLast]
      | cons g fields =>
          obtain ⟨rest, last, hrest, hlast⟩ := ih (List.cons_ne_nil g fields) fun x hx =>
            h x (List.mem_cons_of_mem f hx)
          refine ⟨f ++ ([':'] ++ rest), last, ?_, hlast⟩
          rw [List.intercalate_cons_cons, hrest]
          simp only [List.append_assoc]

/-- The last characters of a text tell that it does not have the suffix. -/
theorem stripSuffix_concat_of_ne (ys xs : List Char) {c d : Char} (h : d ≠ c) :
    stripSuffix (ys ++ [d]) (xs ++ [c]) = none := by
  apply stripSuffix_eq_none
  rw [List.suffix_concat_iff]
  rintro (hnil | ⟨t, ht, -⟩)
  · simp at hnil
  · exact h (List.append_inj_right' ht rfl |> List.singleton_inj.mp)

/-- The suffix is found, and what is left are the fields. -/
theorem splitMeridiem_of_spells {text : List Char} {fields : List (List Char)} {meridiem : Option Bool}
    (hne : fields ≠ []) (hfields : ∀ f ∈ fields, f ≠ [] ∧ ∀ c ∈ f, FieldChar c)
    (h : Spells text fields meridiem) : splitMeridiem text = ([':'].intercalate fields, meridiem) := by
  obtain ⟨space, suffix, rfl, hsuffix, hspace, hnone⟩ := h
  obtain ⟨rest, last, hrest, hlast⟩ := intercalate_ends hne hfields
  rw [hrest]
  have htrim : trimEnd (rest ++ [last] ++ space) = rest ++ [last] := trimEnd_append hlast.space hspace
  -- the suffixes are tried in order, so each of the earlier ones has to fail: on its last letter
  have am : ∀ xs c, 'm' ≠ c → stripSuffix ['a', 'm'] (xs ++ [c]) = none := fun xs _ h =>
    stripSuffix_concat_of_ne ['a'] xs h
  have a : ∀ xs c, 'a' ≠ c → stripSuffix ['a'] (xs ++ [c]) = none := fun xs _ h =>
    stripSuffix_concat_of_ne [] xs h
  have pm : ∀ xs c, 'm' ≠ c → stripSuffix ['p', 'm'] (xs ++ [c]) = none := fun xs _ h =>
    stripSuffix_concat_of_ne ['p'] xs h
  have p : ∀ xs c, 'p' ≠ c → stripSuffix ['p'] (xs ++ [c]) = none := fun xs _ h =>
    stripSuffix_concat_of_ne [] xs h
  simp only [suffixes, List.mem_cons, Prod.mk.injEq, List.not_mem_nil, or_false] at hsuffix
  rw [← List.append_assoc]
  rcases hsuffix with ⟨rfl, rfl⟩ | ⟨rfl, rfl⟩ | ⟨rfl, rfl⟩ | ⟨rfl, rfl⟩ | ⟨rfl, rfl⟩
  · obtain rfl := hnone rfl
    rw [List.append_nil, List.append_nil, splitMeridiem, am _ _ hlast.m.symm, a _ _ hlast.a.symm,
      pm _ _ hlast.m.symm, p _ _ hlast.p.symm]
    rfl
  · rw [splitMeridiem, am _ _ (by decide), stripSuffix_append]
    exact congrArg (·, _) htrim
  · rw [splitMeridiem, stripSuffix_append]
    exact congrArg (·, _) htrim
  · rw [splitMeridiem, am _ _ (by decide), a _ _ (by decide), pm _ _ (by decide), stripSuffix_append]
    exact congrArg (·, _) htrim
  -- `pm` ends in the letter of `am`, so there the whole suffix has to be compared
  · have hsplit : rest ++ [last] ++ space ++ ['p', 'm'] = rest ++ [last] ++ space ++ ['p'] ++ ['m'] := by
      rw [List.append_assoc _ ['p']]
      rfl
    have ham : stripSuffix ['a', 'm'] (rest ++ [last] ++ space ++ ['p', 'm']) = none := by
      apply stripSuffix_eq_none
      rintro ⟨pre, hpre⟩
      have := List.append_inj_right' hpre rfl
      cases this
    rw [splitMeridiem, ham, hsplit, a _ _ (by decide), ← hsplit, stripSuffix_append]
    exact congrArg (·, _) htrim

/-- What is split off spells the text. -/
theorem spells_of_splitMeridiem {text digits : List Char} {meridiem : Option Bool}
    (h : splitMeridiem text = (digits, meridiem)) : Spells text (digits.splitOn ':') meridiem := by
  have spelled : ∀ {rest suffix : List Char} {said : Option Bool}, text = rest ++ suffix →
      (suffix, said) ∈ suffixes → suffix ≠ [] → Spells text ((trimEnd rest).splitOn ':') said := by
    intro rest suffix said htext hsuffix hne
    obtain ⟨space, hspace, hall⟩ := exists_trimEnd rest
    refine ⟨space, suffix, ?_, hsuffix, hall, fun he => absurd he hne⟩
    rw [List.intercalate_splitOn, ← List.append_assoc, ← hspace, htext]
  unfold splitMeridiem at h
  split at h
  · rename_i rest hfound
    cases h
    rcases Option.or_eq_some_iff.mp hfound with hfound | ⟨-, hfound⟩
    · exact spelled (eq_append_of_stripSuffix hfound) (by decide) (by decide)
    · exact spelled (eq_append_of_stripSuffix hfound) (by decide) (by decide)
  · split at h
    · rename_i rest hfound
      cases h
      rcases Option.or_eq_some_iff.mp hfound with hfound | ⟨-, hfound⟩
      · exact spelled (eq_append_of_stripSuffix hfound) (by decide) (by decide)
      · exact spelled (eq_append_of_stripSuffix hfound) (by decide) (by decide)
    · cases h
      refine ⟨[], [], ?_, by decide, List.forall_mem_nil _, fun _ => rfl⟩
      rw [List.intercalate_splitOn, List.append_nil, List.append_nil]

/-! ## Numbers and hours -/

/-- A field that is read as a number. -/
theorem parseUnsigned_field {field : List Char} {n : Nat} :
    parseUnsigned 256 field = some n ↔
      IsNumeral (dropPlus field) ∧ n = numeral (dropPlus field) ∧ n < 256 := by
  rw [parseUnsigned_eq_some_iff, IsNumeral, numeral, and_assoc]

/-- The fields that are read as numbers. -/
theorem mapM_fields {ε : Type} {read : List Char → Except ε Nat}
    (hread : ∀ p n, read p = .ok n ↔ parseUnsigned 256 p = some n) {parts : List (List Char)}
    {numbers : List Nat} :
    parts.mapM read = .ok numbers ↔
      (∀ p ∈ parts, IsNumeral (dropPlus p) ∧ numeral (dropPlus p) < 256) ∧
        numbers = parts.map fun p => numeral (dropPlus p) := by
  -- by induction on the fields, from the left as `mapM` reads them
  induction parts generalizing numbers with
  | nil =>
      rw [List.mapM_nil]
      constructor
      · intro h
        cases h
        exact ⟨List.forall_mem_nil _, rfl⟩
      · rintro ⟨-, rfl⟩
        rfl
  | cons p parts ih =>
      rw [List.mapM_cons, List.forall_mem_cons, List.map_cons]
      constructor
      · intro h
        cases hp : read p with
        | error e =>
            rw [hp] at h
            cases h
        | ok n =>
            cases hrest : parts.mapM read with
            | error e =>
                rw [hp, hrest] at h
                cases h
            | ok rest =>
                rw [hp, hrest] at h
                cases h
                obtain ⟨hnumeral, rfl, hlt⟩ := parseUnsigned_field.mp ((hread p n).mp hp)
                obtain ⟨hall, rfl⟩ := ih.mp hrest
                exact ⟨⟨⟨hnumeral, hlt⟩, hall⟩, rfl⟩
      · rintro ⟨⟨⟨hnumeral, hlt⟩, hall⟩, rfl⟩
        rw [(hread p _).mpr (parseUnsigned_field.mpr ⟨hnumeral, rfl, hlt⟩), ih.mpr ⟨hall, rfl⟩]
        rfl

/-- The hour of the code is that of the grammar. -/
theorem hour24_iff {meridiem : Option Bool} {h hour : Nat} (hlt : hour < 24) :
    hour24 meridiem h = .ok hour ↔ HourDenotes meridiem h hour := by
  cases meridiem with
  | none =>
      rw [hour24, HourDenotes]
      split
      · constructor
        · intro he
          cases he
        · omega
      · rw [Except.ok.injEq, eq_comm]
  | some afternoon =>
      rw [hour24]
      split
      · rename_i hrange
        cases afternoon <;> simp only [HourDenotes, Except.ok.injEq, if_true, Bool.false_eq_true, if_false] <;>
          split <;> omega
      · rename_i hrange
        cases afternoon <;> simp only [HourDenotes, reduceCtorEq, false_iff] <;> omega

theorem hour24_lt {meridiem : Option Bool} {h hour : Nat} (hok : hour24 meridiem h = .ok hour) : hour < 24 := by
  unfold hour24 at hok
  split at hok <;> split at hok
  · obtain rfl := Except.ok.inj hok
    split <;> omega
  · cases hok
  · cases hok
  · obtain rfl := Except.ok.inj hok
    omega

/-! ## What is accepted -/

theorem asI8_lt {n k : Nat} (hn : n < 256) (hk : k ≤ 128) : 0 ≤ asI8 n ∧ asI8 n < k ↔ n < k := by
  unfold asI8
  split <;> omega

theorem toNat_asI8 {n : Nat} (hn : n < 128) : (asI8 n).toNat = n := by
  rw [asI8, if_pos hn, Int.toNat_natCast]

/-- A byte that is too large for a time of day is so as an `i8`, too. -/
theorem new?_eq_some_iff {hour minute second : Nat} {wall : CivilTime} (hhour : hour < 256)
    (hminute : minute < 256) (hsecond : second < 256) :
    CivilTime.new? (asI8 hour) (asI8 minute) (asI8 second) = some wall ↔
      wall.hour = hour ∧ wall.minute = minute ∧ wall.second = second := by
  unfold CivilTime.new?
  constructor
  · intro h
    split at h
    · rename_i hrange
      obtain ⟨hhour, hminute, hsecond⟩ := hrange
      cases h
      refine ⟨toNat_asI8 ?_, toNat_asI8 ?_, toNat_asI8 ?_⟩
      · exact ((asI8_lt ‹_› (by decide)).mp hhour).trans (by decide)
      · exact ((asI8_lt ‹_› (by decide)).mp hminute).trans (by decide)
      · exact ((asI8_lt ‹_› (by decide)).mp hsecond).trans (by decide)
    · cases h
  · rintro ⟨rfl, rfl, rfl⟩
    rw [dif_pos ⟨(asI8_lt hhour (by decide)).mpr wall.hour_lt, (asI8_lt hminute (by decide)).mpr wall.minute_lt,
      (asI8_lt hsecond (by decide)).mpr wall.second_lt⟩, Option.some.injEq]
    exact CivilTime.ext (toNat_asI8 (wall.hour_lt.trans (by decide))) (toNat_asI8 (wall.minute_lt.trans (by decide)))
      (toNat_asI8 (wall.second_lt.trans (by decide)))

theorem HourDenotes.lt {meridiem : Option Bool} {h hour : Nat} (said : HourDenotes meridiem h hour)
    (hlt : hour < 24) : h < 24 := by
  cases meridiem with
  | none =>
      obtain rfl : hour = h := said
      exact hlt
  | some afternoon =>
      have hle : h ≤ 12 := by
        cases afternoon
        · exact said.2.1
        · exact said.2.1
      omega

/-- A number that is missing counts as 0. -/
theorem getD_numeral (parts : List (List Char)) (i : Nat) :
    (parts.map fun p => numeral (dropPlus p)).getD i 0 = numeral ((parts.map dropPlus).getD i []) := by
  have h := List.getD_map (parts.map dropPlus) [] numeral (n := i)
  rw [List.map_map] at h
  exact h

theorem getD_numeral_lt {parts : List (List Char)} (h : ∀ p ∈ parts, numeral (dropPlus p) < 256) (i : Nat) :
    numeral ((parts.map dropPlus).getD i []) < 256 := by
  rw [List.getD_eq_getElem?_getD, List.getElem?_map]
  cases hp : parts[i]? with
  | none => exact (by decide : numeral [] < 256)
  | some p => exact h p (List.mem_of_getElem? hp)

/-- The numbers of a time of day fit. -/
theorem Denotes.numeral_lt {fields : List (List Char)} {meridiem : Option Bool} {wall : CivilTime}
    (said : Denotes fields meridiem wall) {f : List Char} (hf : f ∈ fields) : numeral f < 256 := by
  obtain ⟨i, hi, rfl⟩ := List.mem_iff_getElem.mp hf
  have hget : fields.getD i [] = fields[i] := by rw [List.getD_eq_getElem?_getD, List.getElem?_eq_getElem hi]; rfl
  have hcount := said.count
  have hhour := said.hour.lt wall.hour_lt
  have hminute := wall.minute_lt
  have hsecond := wall.second_lt
  rw [said.minute] at hminute
  rw [said.second] at hsecond
  rw [← hget]
  have hcases : i = 0 ∨ i = 1 ∨ i = 2 := by omega
  rcases hcases with rfl | rfl | rfl <;> omega

/-- The steps of the parser. -/
theorem parseWallClock_steps {input : String} {wall : CivilTime} {digits : List Char}
    {meridiem : Option Bool} (hsplit : splitMeridiem (lowered input) = (digits, meridiem)) :
    parseWallClock input = .ok wall ↔
      (∀ p ∈ digits.splitOn ':', IsNumeral (dropPlus p)) ∧
        Denotes ((digits.splitOn ':').map dropPlus) meridiem wall := by
  unfold parseWallClock
  rw [show (trim input.toList).map Char.toLower = lowered input from rfl, hsplit]
  dsimp only
  generalize digits.splitOn ':' = parts
  -- first the number of fields, then the fields as numbers, then the hour with its suffix
  split
  · rename_i hcount
    constructor
    · intro h
      cases h
    · rintro ⟨-, said⟩
      have := said.count
      rw [List.length_map] at this
      omega
  · rename_i hcount
    rw [bind_eq_ok_iff]
    constructor
    · rintro ⟨numbers, hnumbers, h⟩
      obtain ⟨hall, rfl⟩ := (mapM_fields fun p n => by split <;> simp [*]).mp hnumbers
      have small : ∀ i, numeral ((parts.map dropPlus).getD i []) < 256 := getD_numeral_lt fun p hp => (hall p hp).2
      obtain ⟨hour, hhour, h⟩ := bind_eq_ok_iff.mp h
      rw [getD_numeral, mapError_eq_ok_iff] at hhour
      have hour_lt : hour < 256 := (hour24_lt hhour).trans (by decide)
      rw [getD_numeral, getD_numeral] at h
      split at h
      · rename_i hwall
        cases h
        obtain ⟨rfl, hminute, hsecond⟩ := (new?_eq_some_iff hour_lt (small 1) (small 2)).mp hwall
        refine ⟨fun p hp => (hall p hp).1, ?_, (hour24_iff wall.hour_lt).mp hhour, hminute, hsecond⟩
        rw [List.length_map]
        omega
      · cases h
    · rintro ⟨hall, said⟩
      refine ⟨parts.map fun p => numeral (dropPlus p), (mapM_fields fun p n => by split <;> simp [*]).mpr
        ⟨fun p hp => ⟨hall p hp, said.numeral_lt (List.mem_map_of_mem hp)⟩, rfl⟩, ?_⟩
      rw [getD_numeral, getD_numeral, getD_numeral, (hour24_iff wall.hour_lt).mpr said.hour]
      refine bind_eq_ok_iff.mpr ⟨wall.hour, rfl, ?_⟩
      have minute_lt := wall.minute_lt
      have second_lt := wall.second_lt
      rw [said.minute] at minute_lt
      rw [said.second] at second_lt
      rw [(new?_eq_some_iff (wall.hour_lt.trans (by decide)) (minute_lt.trans (by decide))
        (second_lt.trans (by decide))).mpr ⟨rfl, said.minute, said.second⟩]

/-- The fields are what is found between colons. -/
theorem GrammaticalSigned.fields_eq {input : String} {fields : List (List Char)} {wall : CivilTime}
    (h : GrammaticalSigned input fields wall) {digits : List Char} {meridiem : Option Bool}
    (hsplit : splitMeridiem (lowered input) = (digits, meridiem)) :
    fields = digits.splitOn ':' ∧ (∀ f ∈ fields, IsNumeral (dropPlus f)) ∧
      Denotes (fields.map dropPlus) meridiem wall := by
  obtain ⟨meridiem', spells, hall, said⟩ := h
  have hne : fields ≠ [] := by
    rintro rfl
    have := said.count
    simp at this
  have hfields : ∀ f ∈ fields, f ≠ [] ∧ ∀ c ∈ f, FieldChar c := fun f hf => fieldChar_of_numeral (hall f hf)
  rw [splitMeridiem_of_spells hne hfields spells] at hsplit
  cases hsplit
  refine ⟨?_, hall, said⟩
  rw [List.splitOn_intercalate ':' (fun f hf hcolon => ((hfields f hf).2 _ hcolon).colon rfl) hne]

/-- **What is accepted**: the grammar, where each field may have a plus sign in front. -/
theorem parseWallClock_iff {input : String} {wall : CivilTime} :
    parseWallClock input = .ok wall ↔ ∃ fields, GrammaticalSigned input fields wall := by
  rcases hsplit : splitMeridiem (lowered input) with ⟨digits, meridiem⟩
  rw [parseWallClock_steps hsplit]
  constructor
  · rintro ⟨hall, said⟩
    exact ⟨_, meridiem, spells_of_splitMeridiem hsplit, hall, said⟩
  · rintro ⟨fields, h⟩
    obtain ⟨rfl, hall, said⟩ := h.fields_eq hsplit
    exact ⟨hall, said⟩

theorem dropPlus_of_numeral {f : List Char} (h : IsNumeral f) : dropPlus f = f := by
  cases f with
  | nil => rfl
  | cons c cs =>
      refine dropPlus_cons_of_ne cs ?_
      rintro rfl
      exact absurd (h.2 '+' List.mem_cons_self) (by decide)

theorem map_dropPlus {fields : List (List Char)} (h : ∀ f ∈ fields, dropPlus f = f) :
    fields.map dropPlus = fields := by
  rw [List.map_congr_left h, List.map_id']

/-- Without plus signs the two grammars agree. -/
theorem grammatical_iff {input : String} {wall : CivilTime} :
    Grammatical input wall ↔ ∃ fields, GrammaticalSigned input fields wall ∧ ∀ f ∈ fields, f.head? ≠ some '+' := by
  constructor
  · rintro ⟨fields, meridiem, spells, hall, said⟩
    have hdrop : ∀ f ∈ fields, dropPlus f = f := fun f hf => dropPlus_of_numeral (hall f hf)
    refine ⟨fields, ⟨meridiem, spells, fun f hf => ?_, ?_⟩, fun f hf hplus => ?_⟩
    · rw [hdrop f hf]
      exact hall f hf
    · rwa [map_dropPlus hdrop]
    · exact absurd ((hall f hf).2 '+' (List.mem_of_head? hplus)) (by decide)
  · rintro ⟨fields, ⟨meridiem, spells, hall, said⟩, hplain⟩
    have hdrop : ∀ f ∈ fields, dropPlus f = f := by
      intro f hf
      cases f with
      | nil => rfl
      | cons c cs =>
          refine dropPlus_cons_of_ne cs ?_
          rintro rfl
          exact hplain _ hf rfl
    rw [map_dropPlus hdrop] at said
    refine ⟨fields, meridiem, spells, fun f hf => ?_, said⟩
    rw [← hdrop f hf]
    exact hall f hf

/-- Some field has a plus sign in front, and without these signs the input would be a time of the grammar. -/
def Signed (input : String) : Prop :=
  ∃ fields wall, GrammaticalSigned input fields wall ∧ ∃ f ∈ fields, f.head? = some '+'

/-- **The parser accepts the grammar, with the right meaning**, exactly of inputs that have no plus sign in
front of a field. -/
theorem parseWallClock_grammatical_iff (input : String) :
    (∀ wall, parseWallClock input = .ok wall ↔ Grammatical input wall) ↔ ¬ Signed input := by
  rcases hsplit : splitMeridiem (lowered input) with ⟨digits, meridiem⟩
  constructor
  · rintro agree ⟨fields, wall, signed, f, hf, hplus⟩
    have accepted : parseWallClock input = .ok wall := parseWallClock_iff.mpr ⟨fields, signed⟩
    obtain ⟨fields', unsigned, hplain⟩ := grammatical_iff.mp ((agree wall).mp accepted)
    obtain ⟨rfl, -⟩ := signed.fields_eq hsplit
    obtain ⟨rfl, -⟩ := unsigned.fields_eq hsplit
    exact hplain f hf hplus
  · intro unsigned wall
    rw [parseWallClock_iff, grammatical_iff]
    constructor
    · rintro ⟨fields, said⟩
      exact ⟨fields, said, fun f hf hplus => unsigned ⟨fields, wall, said, f, hf, hplus⟩⟩
    · rintro ⟨fields, said, -⟩
      exact ⟨fields, said⟩

/-- **A plus sign that is accepted.** -/
theorem signed_hour_accepted :
    parseWallClock "+4:35" = .ok ⟨4, 35, 0, by decide, by decide, by decide⟩ ∧
      ∀ wall, ¬ Grammatical "+4:35" wall := by
  refine ⟨by decide +kernel, fun wall said => ?_⟩
  obtain ⟨fields, signed, hplain⟩ := grammatical_iff.mp said
  have hsplit : splitMeridiem (lowered "+4:35") = (['+', '4', ':', '3', '5'], none) := by decide +kernel
  obtain ⟨rfl, -⟩ := signed.fields_eq hsplit
  exact hplain ['+', '4'] (by decide +kernel) rfl

end MatterTimeCtl
