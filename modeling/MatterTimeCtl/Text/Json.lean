/-
# MatterTimeCtl.Text.Json — JSON values and how they are printed.

A value is printed over several lines, two spaces deeper for each level, or on one line.  A print is a
list of pieces, text and line breaks, so that the breaks the printer makes itself can be told from
characters that come out of the strings.

A string is printed in quotes with its quotes, backslashes and control characters below U+0020 escaped,
and nothing else: `pretty_forall` says which characters a print can have.
-/
import MatterTimeCtl.Text.Format

namespace MatterTimeCtl.Text

open Format

/-- A JSON value; the fields of an object keep their order. -/
inductive Json where
  | null
  | bool (b : Bool)
  | number (n : Int)
  | string (s : String)
  | array (items : List Json)
  | object (fields : List (String × Json))

/-- Text on one line, or a line break with the indentation of the next line. -/
inductive Piece where
  | text (s : String)
  | line (indent : Nat)
  deriving DecidableEq

/-- The characters of a piece. -/
def Piece.render : Piece → String
  | .text s => s
  | .line indent => "\n" ++ String.ofList (List.replicate indent ' ')

/-- The text of a print. -/
def render (pieces : List Piece) : String := String.join (pieces.map Piece.render)

/-- A string in quotes. -/
def quoted (s : String) : String := String.ofList ('"' :: (s.toList.flatMap printChar ++ ['"']))

namespace Json

/-! ## Printing -/

mutual

/-- Over several lines. -/
def pretty (indent : Nat) : Json → List Piece
  | .null => [.text "null"]
  | .bool true => [.text "true"]
  | .bool false => [.text "false"]
  | .number n => [.text (toString n)]
  | .string s => [.text (quoted s)]
  | .array [] => [.text "[]"]
  | .array (item :: items) =>
    .text "[" :: .line (indent + 2) :: (item.pretty (indent + 2) ++
      (prettyItems (indent + 2) items ++ [.line indent, .text "]"]))
  | .object [] => [.text "\x7b\x7d"]
  | .object ((key, value) :: fields) =>
    .text "\x7b" :: .line (indent + 2) :: .text (quoted key) :: .text ": " ::
      (value.pretty (indent + 2) ++
        (prettyFields (indent + 2) fields ++ [.line indent, .text "\x7d"]))

/-- The items after the first. -/
def prettyItems (indent : Nat) : List Json → List Piece
  | [] => []
  | item :: items => .text "," :: .line indent :: (item.pretty indent ++ prettyItems indent items)

/-- The fields after the first. -/
def prettyFields (indent : Nat) : List (String × Json) → List Piece
  | [] => []
  | (key, value) :: fields =>
    .text "," :: .line indent :: .text (quoted key) :: .text ": " ::
      (value.pretty indent ++ prettyFields indent fields)

end

mutual

/-- On one line. -/
def compact : Json → String
  | .null => "null"
  | .bool true => "true"
  | .bool false => "false"
  | .number n => toString n
  | .string s => quoted s
  | .array items => "[" ++ ",".intercalate (compactItems items) ++ "]"
  | .object fields => "\x7b" ++ ",".intercalate (compactFields fields) ++ "\x7d"

/-- The items of an array, each on its own. -/
def compactItems : List Json → List String
  | [] => []
  | item :: items => item.compact :: compactItems items

/-- The fields of an object, each with its key. -/
def compactFields : List (String × Json) → List String
  | [] => []
  | (key, value) :: fields => (quoted key ++ ":" ++ value.compact) :: compactFields fields

end

/-! ## What a value contains -/

mutual

/-- The strings and keys in a value. -/
def strings : Json → List String
  | .string s => [s]
  | .array items => stringsOfItems items
  | .object fields => stringsOfFields fields
  | _ => []

/-- Those of all items. -/
def stringsOfItems : List Json → List String
  | [] => []
  | item :: items => item.strings ++ stringsOfItems items

/-- Those of all fields, with the keys. -/
def stringsOfFields : List (String × Json) → List String
  | [] => []
  | (key, value) :: fields => key :: (value.strings ++ stringsOfFields fields)

end

/-- The value of an object's field. -/
def get? : Json → String → Option Json
  | .object fields, key => fields.lookup key
  | _, _ => none

end Json

/-! ## The characters of a print -/

/-- Every character of the text satisfies `P`. -/
def AllText (P : Char → Prop) : List Piece → Prop
  | [] => True
  | .text s :: pieces => (∀ c ∈ s.toList, P c) ∧ AllText P pieces
  | .line _ :: pieces => AllText P pieces

section AllText

variable {P : Char → Prop}

@[simp] theorem allText_nil : AllText P [] := trivial

@[simp] theorem allText_text {s : String} {pieces : List Piece} :
    AllText P (.text s :: pieces) ↔ (∀ c ∈ s.toList, P c) ∧ AllText P pieces := Iff.rfl

@[simp] theorem allText_line {indent : Nat} {pieces : List Piece} :
    AllText P (.line indent :: pieces) ↔ AllText P pieces := Iff.rfl

@[simp] theorem allText_append {pieces pieces' : List Piece} :
    AllText P (pieces ++ pieces') ↔ AllText P pieces ∧ AllText P pieces' := by
  induction pieces with
  | nil => simp
  | cons piece pieces ih =>
      cases piece with
      | text s => simp only [List.cons_append, allText_text, ih, and_assoc]
      | line indent => exact ih

end AllText

/-- The characters from DEL on satisfy `P`. -/
def AllHigh (P : Char → Prop) (s : String) : Prop := ∀ c ∈ s.toList, 127 ≤ c.toNat → P c

section Characters

variable {P : Char → Prop} (hP : ∀ c : Char, 32 ≤ c.toNat → c.toNat < 127 → P c)
include hP

/-- Text that is printable ASCII. -/
theorem all_of_ascii {s : String} (h : s.toList.all (fun c => 32 ≤ c.toNat && c.toNat < 127) = true) :
    ∀ c ∈ s.toList, P c := by
  intro c hc
  have hrange := List.all_eq_true.mp h c hc
  simp only [Bool.and_eq_true, decide_eq_true_eq] at hrange
  exact hP c hrange.1 hrange.2

theorem digitChar_printable {n : Nat} (h : n < 16) : P n.digitChar := by
  have hall : ∀ n : Fin 16, 32 ≤ n.val.digitChar.toNat ∧ n.val.digitChar.toNat < 127 := by decide
  obtain ⟨hlo, hhi⟩ := hall ⟨n, h⟩
  exact hP _ hlo hhi

/-- A character is printed as it is, or as printable ASCII. -/
theorem printChar_forall (c : Char) : (∀ d ∈ printChar c, P d) ↔ (127 ≤ c.toNat → P c) := by
  have hescapes : ∀ p ∈ escapes, p.1.toNat < 127 ∧ 32 ≤ p.2.toNat ∧ p.2.toNat < 127 := by decide
  have hslash : P '\\' := hP _ (by decide) (by decide)
  unfold printChar
  -- the short escapes, the other controls below the space, and what is printed as it is
  cases hfind : escapes.find? fun p => p.1 = c with
  | some p =>
      obtain ⟨hlow, hlo, hhi⟩ := hescapes p (List.mem_of_find?_eq_some hfind)
      have hp : p.1 = c := by simpa using List.find?_some hfind
      simp only [List.mem_cons, List.not_mem_nil, or_false, forall_eq_or_imp, forall_eq]
      constructor
      · intro _ h
        rw [hp] at hlow
        omega
      · intro _
        exact ⟨hslash, hP _ hlo hhi⟩
  | none =>
      dsimp only
      split
      · rename_i hlt
        constructor
        · intro _ h
          omega
        · intro _ d hd
          simp only [List.mem_cons, List.not_mem_nil, or_false] at hd
          rcases hd with rfl | rfl | rfl | rfl | rfl | rfl
          · exact hslash
          · exact hP _ (by decide) (by decide)
          · exact hP _ (by decide) (by decide)
          · exact hP _ (by decide) (by decide)
          · exact digitChar_printable hP (by omega)
          · exact digitChar_printable hP (by omega)
      · rename_i hge
        simp only [List.mem_singleton, forall_eq]
        constructor
        · intro h _
          exact h
        · intro h
          by_cases hhi : c.toNat < 127
          · exact hP c (by omega) hhi
          · exact h (by omega)

/-- What matters of a string in quotes are its characters from DEL on. -/
theorem quoted_forall (s : String) :
    (∀ c ∈ (quoted s).toList, P c) ↔ AllHigh P s := by
  have hquote : P '"' := hP _ (by decide) (by decide)
  simp only [quoted, String.toList_ofList, List.mem_cons, List.mem_append, List.mem_flatMap,
    List.not_mem_nil, or_false]
  constructor
  · intro h c hc
    apply (printChar_forall hP c).mp
    intro d hd
    exact h d (.inr (.inl ⟨c, hc, hd⟩))
  · rintro h c (rfl | ⟨d, hd, hc⟩ | rfl)
    · exact hquote
    · exact (printChar_forall hP d).mpr (h d hd) c hc
    · exact hquote

theorem toString_forall (n : Int) : ∀ c ∈ (toString n).toList, P c := by
  have hdigits : ∀ m : Nat, ∀ c ∈ (toString m).toList, P c := by
    intro m c hc
    have hdigit : c.isDigit = true := by
      have hlist : (toString m).toList = Nat.toDigits 10 m := by simp
      rw [hlist] at hc
      exact Nat.isDigit_of_mem_toDigits (by decide) (by decide) hc
    simp only [Char.isDigit, Bool.and_eq_true, decide_eq_true_eq] at hdigit
    have hlo : 48 ≤ c.toNat := hdigit.1
    have hhi : c.toNat ≤ 57 := hdigit.2
    exact hP c (by omega) (by omega)
  cases n with
  | ofNat m => exact hdigits m
  | negSucc m =>
      intro c hc
      have hlist : (toString (Int.negSucc m)).toList = '-' :: (toString (m + 1)).toList := by
        simp [toString, Int.repr]
      rw [hlist, List.mem_cons] at hc
      rcases hc with rfl | hc
      · exact hP _ (by decide) (by decide)
      · exact hdigits _ c hc

namespace Json

omit hP in
/-- A print without strings. -/
theorem allText_alone {s : String} (h : ∀ c ∈ s.toList, P c) :
    AllText P [.text s] ↔ ∀ t ∈ ([] : List String), AllHigh P t :=
  ⟨fun _ => List.forall_mem_nil _, fun _ => ⟨h, trivial⟩⟩

mutual

/-- **What a print can have**: besides printable ASCII only the characters from DEL on of the strings in
the value. -/
theorem pretty_forall (j : Json) (indent : Nat) :
    AllText P (j.pretty indent) ↔ ∀ s ∈ j.strings, AllHigh P s := by
  have literal : ∀ s : String, s.toList.all (fun c => 32 ≤ c.toNat && c.toNat < 127) = true →
      ∀ c ∈ s.toList, P c := fun _ => all_of_ascii hP
  -- the punctuation is printable, so only strings count; by recursion on the value
  cases j with
  | null => exact allText_alone (literal "null" (by decide))
  | bool b =>
      cases b with
      | true => exact allText_alone (literal "true" (by decide))
      | false => exact allText_alone (literal "false" (by decide))
  | number n => exact allText_alone (toString_forall hP n)
  | string s =>
      simp only [pretty, strings, allText_text, allText_nil, and_true, List.mem_singleton, forall_eq]
      exact quoted_forall hP s
  | array items =>
      cases items with
      | nil => exact allText_alone (literal "[]" (by decide))
      | cons item items =>
          have hopen := literal "[" (by decide)
          have hclose := literal "]" (by decide)
          simp only [pretty, strings, stringsOfItems, allText_text, allText_line, allText_append,
            allText_nil, and_true, List.forall_mem_append, pretty_forall item (indent + 2),
            prettyItems_forall items (indent + 2)]
          exact ⟨fun h => ⟨h.2.1, h.2.2.1⟩, fun h => ⟨hopen, h.1, h.2, hclose⟩⟩
  | object fields =>
      cases fields with
      | nil => exact allText_alone (literal "\x7b\x7d" (by decide))
      | cons field fields =>
          obtain ⟨key, value⟩ := field
          have hopen := literal "\x7b" (by decide)
          have hcolon := literal ": " (by decide)
          have hclose := literal "\x7d" (by decide)
          simp only [pretty, strings, stringsOfFields, allText_text, allText_line, allText_append,
            allText_nil, and_true, List.forall_mem_cons, List.forall_mem_append, quoted_forall hP key,
            pretty_forall value (indent + 2), prettyFields_forall fields (indent + 2)]
          exact ⟨fun h => ⟨h.2.1, h.2.2.2.1, h.2.2.2.2.1⟩,
            fun h => ⟨hopen, h.1, hcolon, h.2.1, h.2.2, hclose⟩⟩

theorem prettyItems_forall (items : List Json) (indent : Nat) :
    AllText P (prettyItems indent items) ↔ ∀ s ∈ stringsOfItems items, AllHigh P s := by
  cases items with
  | nil => exact ⟨fun _ => List.forall_mem_nil _, fun _ => trivial⟩
  | cons item items =>
      have hcomma : ∀ c ∈ ",".toList, P c := all_of_ascii hP (by decide)
      simp only [prettyItems, stringsOfItems, allText_text, allText_line, allText_append,
        List.forall_mem_append, pretty_forall item indent, prettyItems_forall items indent]
      exact ⟨fun h => h.2, fun h => ⟨hcomma, h⟩⟩

theorem prettyFields_forall (fields : List (String × Json)) (indent : Nat) :
    AllText P (prettyFields indent fields) ↔ ∀ s ∈ stringsOfFields fields, AllHigh P s := by
  cases fields with
  | nil => exact ⟨fun _ => List.forall_mem_nil _, fun _ => trivial⟩
  | cons field fields =>
      obtain ⟨key, value⟩ := field
      have hcomma : ∀ c ∈ ",".toList, P c := all_of_ascii hP (by decide)
      have hcolon : ∀ c ∈ ": ".toList, P c := all_of_ascii hP (by decide)
      simp only [prettyFields, stringsOfFields, allText_text, allText_line, allText_append,
        List.forall_mem_cons, List.forall_mem_append, quoted_forall hP key, pretty_forall value indent,
        prettyFields_forall fields indent]
      exact ⟨fun h => ⟨h.2.1, h.2.2.2⟩, fun h => ⟨hcomma, h.1, hcolon, h.2⟩⟩

end

end Json

end Characters

end MatterTimeCtl.Text
