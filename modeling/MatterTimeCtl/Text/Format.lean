/-
# MatterTimeCtl.Text.Format — formats that can be read back.

A `Format α` says how a value is written and how it is read back from the front of a text, with the law
that what was written is read back whatever follows it.  Numbers are written with the character that
ends them, so the law needs no side condition, and formats compose: literals around a format, one format
after another, many in a row, a format up to a change of representation.

The second half are the building blocks of JSON: escaped strings, and values that can be null.
-/
import MatterTimeCtl.Text.Unsigned
import Mathlib.Data.Char
import Mathlib.Data.List.Basic

namespace MatterTimeCtl.Text

/-- How a value is written, and how it is read back from the front of a text. -/
structure Format (α : Type) where
  print : α → List Char
  parse : List Char → Option (α × List Char)
  parse_print : ∀ a rest, parse (print a ++ rest) = some (a, rest)

/-- What follows a prefix. -/
def stripPrefix : List Char → List Char → Option (List Char)
  | [], cs => some cs
  | _ :: _, [] => none
  | p :: ps, c :: cs => if p = c then stripPrefix ps cs else none

@[simp] theorem stripPrefix_append (ps rest : List Char) :
    stripPrefix ps (ps ++ rest) = some rest := by
  induction ps with
  | nil => rfl
  | cons p ps ih => simp [stripPrefix, ih]

theorem stripPrefix_cons_of_ne {p c : Char} (h : p ≠ c) (ps cs : List Char) :
    stripPrefix (p :: ps) (c :: cs) = none := by simp [stripPrefix, h]

namespace Format

variable {α β : Type}

/-! ## Combinators -/

/-- The format after a literal. -/
def after (pre : String) (p : Format α) : Format α where
  print a := pre.toList ++ p.print a
  parse cs := do p.parse (← stripPrefix pre.toList cs)
  parse_print a rest := by simp [p.parse_print]

/-- The format before a literal. -/
def before (p : Format α) (post : String) : Format α where
  print a := p.print a ++ post.toList
  parse cs := do
    let (a, rest) ← p.parse cs
    return (a, ← stripPrefix post.toList rest)
  parse_print a rest := by simp [p.parse_print]

/-- One after the other. -/
def pair (p : Format α) (q : Format β) : Format (α × β) where
  print ab := p.print ab.1 ++ q.print ab.2
  parse cs := do
    let (a, rest) ← p.parse cs
    let (b, rest) ← q.parse rest
    return ((a, b), rest)
  parse_print ab rest := by simp [p.parse_print, q.parse_print]

/-- The same texts for other values; not every text need stand for one. -/
def reshape (p : Format α) (f : β → α) (g : α → Option β) (h : ∀ b, g (f b) = some b) : Format β where
  print b := p.print (f b)
  parse cs := do
    let (a, rest) ← p.parse cs
    return (← g a, rest)
  parse_print b rest := by simp [p.parse_print, h]

/-! ## Many in a row -/

/-- No text of the format begins with this character. -/
def NeverStarts (p : Format α) (c : Char) : Prop := ∀ a, ∃ d cs, p.print a = d :: cs ∧ d ≠ c

/-- Read up to the terminator, `fuel` values at most. -/
def parseMany (p : Format α) (term : Char) : Nat → List Char → Option (List α × List Char)
  | 0, _ => none
  | fuel + 1, cs =>
    match cs with
    | [] => none
    | c :: rest =>
      if c = term then some ([], rest)
      else do
        let (a, rest) ← p.parse cs
        let (as, rest) ← parseMany p term fuel rest
        return (a :: as, rest)

theorem parseMany_print {p : Format α} {term : Char} (h : p.NeverStarts term) (l : List α)
    (rest : List Char) {fuel : Nat} (hfuel : l.length < fuel) :
    parseMany p term fuel (l.flatMap p.print ++ term :: rest) = some (l, rest) := by
  induction l generalizing fuel with
  | nil =>
      obtain ⟨fuel, rfl⟩ : ∃ k, fuel = k + 1 := ⟨fuel - 1, by omega⟩
      simp [parseMany]
  | cons a as ih =>
      obtain ⟨fuel, rfl⟩ : ∃ k, fuel = k + 1 := ⟨fuel - 1, by omega⟩
      obtain ⟨d, cs, hprint, hne⟩ := h a
      have hparse := p.parse_print a (as.flatMap p.print ++ term :: rest)
      rw [hprint, List.cons_append] at hparse
      rw [List.flatMap_cons, List.append_assoc, hprint, List.cons_append]
      simp [parseMany, hne, hparse, ih (Nat.lt_of_succ_lt_succ hfuel)]

theorem length_le_flatMap {p : Format α} {term : Char} (h : p.NeverStarts term) (l : List α) :
    l.length ≤ (l.flatMap p.print).length := by
  induction l with
  | nil => exact Nat.zero_le _
  | cons a as ih =>
      obtain ⟨d, cs, hprint, -⟩ := h a
      rw [List.flatMap_cons, hprint, List.length_append, List.length_cons, List.length_cons]
      omega

/-- Any number of values up to a terminator. -/
def many (p : Format α) (term : Char) (h : p.NeverStarts term) : Format (List α) where
  print l := l.flatMap p.print ++ [term]
  parse cs := parseMany p term (cs.length + 1) cs
  parse_print l rest := by
    have hlen := length_le_flatMap h l
    rw [List.append_assoc, List.singleton_append]
    refine parseMany_print h l rest ?_
    rw [List.length_append]
    omega

/-! ## Numbers -/

/-- A decimal number below `bound`, and the character that ends it. -/
def number (bound : Nat) (term : Char) (h : term.isDigit = false) : Format {n : Nat // n < bound} where
  print n := Nat.toDigits 10 n ++ [term]
  parse cs := do
    let n ← parseUnsigned bound (cs.takeWhile Char.isDigit)
    let rest ← stripPrefix [term] (cs.dropWhile Char.isDigit)
    if hn : n < bound then return (⟨n, hn⟩, rest) else none
  parse_print n rest := by
    have hdigits : ∀ c ∈ Nat.toDigits 10 n, c.isDigit = true := fun c hc =>
      Nat.isDigit_of_mem_toDigits (by decide) (by decide) hc
    have hstop : ¬ term.isDigit = true := by simp [h]
    rw [List.append_assoc, List.takeWhile_append_of_pos hdigits, List.dropWhile_append_of_pos hdigits]
    simp [hstop, parseUnsigned_toDigits n.2, n.2, stripPrefix]

/-! ## Strings -/

/-- Characters with an escape of their own, with it. -/
def escapes : List (Char × Char) :=
  [('"', '"'), ('\\', '\\'), ('\x08', 'b'), ('\t', 't'), ('\n', 'n'), ('\x0c', 'f'), ('\r', 'r')]

/-- The value of a lower-case hexadecimal digit. -/
def hexValue (c : Char) : Nat := if c.isDigit then c.toNat - 48 else c.toNat - 87

/-- A character in a string: control characters, quotes and backslashes are escaped. -/
def printChar (c : Char) : List Char :=
  match escapes.find? fun p => p.1 = c with
  | some p => ['\\', p.2]
  | none =>
    if c.toNat < 32 then ['\\', 'u', '0', '0', (c.toNat / 16).digitChar, (c.toNat % 16).digitChar]
    else [c]

/-- The character of a `\u` escape. -/
def parseCode : List Char → Option (Char × List Char)
  | '0' :: '0' :: hi :: lo :: rest => some (Char.ofNat (hexValue hi * 16 + hexValue lo), rest)
  | _ => none

/-- The character of an escape, after the backslash. -/
def parseEscape : List Char → Option (Char × List Char)
  | [] => none
  | e :: rest =>
    if e = 'u' then parseCode rest
    else (escapes.find? fun p => p.2 = e).map fun p => (p.1, rest)

def parseChar : List Char → Option (Char × List Char)
  | [] => none
  | c :: rest => if c = '\\' then parseEscape rest else some (c, rest)

theorem parseEscape_of_mem {p : Char × Char} (h : p ∈ escapes) (rest : List Char) :
    parseEscape (p.2 :: rest) = some (p.1, rest) := by
  have hall : ∀ p ∈ escapes, p.2 ≠ 'u' ∧ escapes.find? (fun q => q.2 = p.2) = some p := by decide
  obtain ⟨hu, hfind⟩ := hall p h
  simp [parseEscape, hu, hfind]

theorem parseCode_print {c : Char} (h : c.toNat < 32) (rest : List Char) :
    parseCode ('0' :: '0' :: (c.toNat / 16).digitChar :: (c.toNat % 16).digitChar :: rest) =
      some (c, rest) := by
  have hall : ∀ n : Fin 32,
      hexValue (n.val / 16).digitChar * 16 + hexValue (n.val % 16).digitChar = n.val := by decide
  rw [parseCode, hall ⟨c.toNat, h⟩, Char.ofNat_toNat]

theorem parseChar_printChar (c : Char) (rest : List Char) :
    parseChar (printChar c ++ rest) = some (c, rest) := by
  unfold printChar
  cases hfind : escapes.find? fun p => p.1 = c with
  | some p =>
      have hp : p.1 = c := by simpa using List.find?_some hfind
      have hparse := parseEscape_of_mem (List.mem_of_find?_eq_some hfind) rest
      rw [hp] at hparse
      simp [parseChar, hparse]
  | none =>
      dsimp only
      split
      · rename_i hlt
        simp [parseChar, parseEscape, parseCode_print hlt]
      · have hne : c ≠ '\\' := by
          rintro rfl
          simp [escapes] at hfind
        simp [parseChar, hne]

/-- One character of a string. -/
def char : Format Char where
  print := printChar
  parse := parseChar
  parse_print := parseChar_printChar

/-- A character is not written like the end of the string. -/
theorem char_neverStarts : char.NeverStarts '"' := by
  intro c
  show ∃ d cs, printChar c = d :: cs ∧ d ≠ '"'
  unfold printChar
  cases hfind : escapes.find? fun p => p.1 = c with
  | some p => exact ⟨_, _, rfl, by decide⟩
  | none =>
      dsimp only
      split
      · exact ⟨_, _, rfl, by decide⟩
      · refine ⟨_, _, rfl, ?_⟩
        rintro rfl
        simp [escapes] at hfind

/-- A string in quotes. -/
def string : Format String :=
  (after "\"" (many char '"' char_neverStarts)).reshape String.toList (fun cs => some (String.ofList cs))
    fun s => by rw [String.ofList_toList]

/-! ## Alternatives -/

/-- A literal, or a value whose text does not begin like it. -/
def orLiteral (text : String) (p : Format α) {c : Char} {cs : List Char} (htext : text.toList = c :: cs)
    (h : p.NeverStarts c) : Format (Option α) where
  print
    | none => text.toList
    | some a => p.print a
  parse cs :=
    match stripPrefix text.toList cs with
    | some rest => some (none, rest)
    | none => do
      let (a, rest) ← p.parse cs
      return (some a, rest)
  parse_print oa rest := by
    cases oa with
    | none => simp only [stripPrefix_append]
    | some a =>
        obtain ⟨d, ds, hprint, hne⟩ := h a
        have hstrip : stripPrefix text.toList (p.print a ++ rest) = none := by
          rw [hprint, htext]
          exact stripPrefix_cons_of_ne hne.symm _ _
        simp only [hstrip, p.parse_print]
        rfl

/-- A value that can be null. -/
def nullable (p : Format α) (h : p.NeverStarts 'n') : Format (Option α) := orLiteral "null" p rfl h

/-- A format whose texts all begin with the literal `pre` never starts otherwise. -/
theorem neverStarts_after {l : String} {p : Format α} {c d : Char} {cs : List Char}
    (hl : l.toList = d :: cs) (h : d ≠ c) : (after l p).NeverStarts c := fun a =>
  ⟨d, cs ++ p.print a, by simp [after, hl], h⟩

theorem neverStarts_reshape {p : Format α} {c : Char} (hp : p.NeverStarts c) (f : β → α)
    (g : α → Option β) (h : ∀ b, g (f b) = some b) : (p.reshape f g h).NeverStarts c := fun b => hp (f b)

theorem neverStarts_number {bound : Nat} {term : Char} {h : term.isDigit = false} {c : Char}
    (hc : c.isDigit = false) : (number bound term h).NeverStarts c := by
  intro n
  obtain ⟨d, ds, hdigits⟩ := List.exists_cons_of_ne_nil (Nat.toDigits_ne_nil (b := 10) (n := n.val))
  refine ⟨d, ds ++ [term], by simp [number, hdigits], ?_⟩
  rintro rfl
  have hd : d.isDigit = true := Nat.isDigit_of_mem_toDigits (b := 10) (n := n.val) (by decide)
    (by decide) (by simp [hdigits])
  rw [hc] at hd
  cases hd

theorem neverStarts_string {c : Char} (h : '"' ≠ c) : string.NeverStarts c := fun s =>
  neverStarts_after (l := "\"") rfl h s.toList

end Format

end MatterTimeCtl.Text
