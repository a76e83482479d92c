/-
# MatterTimeCtl.Text.JsonReader — reading JSON back.

What somebody else makes of a printed text: it is cut into tokens, with white space between them, and the tokens are
read as one value with nothing after it.  A value has one list of tokens however it is printed, so both layouts
read back as the value that was printed.
-/
import MatterTimeCtl.Text.Json

namespace MatterTimeCtl.Text

open Format

/-! ## Tokens -/

/-- A token of a JSON text. -/
inductive Token where
  | openArray
  | closeArray
  | openObject
  | closeObject
  | comma
  | colon
  | null
  | bool (b : Bool)
  | number (n : Int)
  | string (s : String)
  deriving DecidableEq

/-- The tokens that are always written the same. -/
def symbols : List (String × Token) :=
  [("[", .openArray), ("]", .closeArray), ("\x7b", .openObject), ("\x7d", .closeObject), (",", .comma),
    (":", .colon), ("null", .null), ("true", .bool true), ("false", .bool false)]

/-- JSON white space. -/
def isSpace (c : Char) : Bool := c = ' ' || c = '\t' || c = '\n' || c = '\r'

/-- A token that is always written the same, at the front of a text. -/
def readSymbol (cs : List Char) : Option (Token × List Char) :=
  symbols.findSome? fun (text, t) => (stripPrefix text.toList cs).map fun rest => (t, rest)

/-- A string token at the front of a text. -/
def readQuoted (cs : List Char) : Option (Token × List Char) :=
  (Format.string.parse cs).map fun (s, rest) => (.string s, rest)

/-- An integer, with or without a sign. -/
def readNumber : List Char → Option (Token × List Char)
  | '-' :: cs => (readDigits cs).map fun (n, rest) => (.number (-n), rest)
  | cs => (readDigits cs).map fun (n, rest) => (.number n, rest)

/-- The first token of a text that does not begin with white space. -/
def readToken (cs : List Char) : Option (Token × List Char) :=
  (readSymbol cs).or ((readQuoted cs).or (readNumber cs))

/-- The tokens of a text, `fuel` at most. -/
def scan : Nat → List Char → Option (List Token)
  | 0, _ => none
  | fuel + 1, cs =>
    let cs := cs.dropWhile isSpace
    if cs = [] then some []
    else do
      let (t, rest) ← readToken cs
      return t :: (← scan fuel rest)

/-! ## Values -/

mutual

/-- A value from the front of a list of tokens. -/
def parseValue : Nat → List Token → Option (Json × List Token)
  | _, .null :: ts => some (.null, ts)
  | _, .bool b :: ts => some (.bool b, ts)
  | _, .number n :: ts => some (.number n, ts)
  | _, .string s :: ts => some (.string s, ts)
  | _, .openArray :: .closeArray :: ts => some (.array [], ts)
  | fuel + 1, .openArray :: ts => do
    let (item, ts) ← parseValue fuel ts
    let (items, ts) ← parseItems fuel ts
    return (.array (item :: items), ts)
  | _, .openObject :: .closeObject :: ts => some (.object [], ts)
  | fuel + 1, .openObject :: .string key :: .colon :: ts => do
    let (value, ts) ← parseValue fuel ts
    let (fields, ts) ← parseFields fuel ts
    return (.object ((key, value) :: fields), ts)
  | _, _ => none

/-- The items after the first, with the end of the array. -/
def parseItems : Nat → List Token → Option (List Json × List Token)
  | _, .closeArray :: ts => some ([], ts)
  | fuel + 1, .comma :: ts => do
    let (item, ts) ← parseValue fuel ts
    let (items, ts) ← parseItems fuel ts
    return (item :: items, ts)
  | _, _ => none

/-- The fields after the first, with the end of the object. -/
def parseFields : Nat → List Token → Option (List (String × Json) × List Token)
  | _, .closeObject :: ts => some ([], ts)
  | fuel + 1, .comma :: .string key :: .colon :: ts => do
    let (value, ts) ← parseValue fuel ts
    let (fields, ts) ← parseFields fuel ts
    return ((key, value) :: fields, ts)
  | _, _ => none

end

/-- The value that a whole text stands for. -/
def readJson (s : String) : Option Json := do
  let ts ← scan (s.toList.length + 1) s.toList
  match ← parseValue ts.length ts with
  | (j, []) => some j
  | _ => none

/-! ## Tokens as they are written -/

namespace Token

/-- How a token is written. -/
def text : Token → List Char
  | .openArray => ['[']
  | .closeArray => [']']
  | .openObject => ['{']
  | .closeObject => ['}']
  | .comma => [',']
  | .colon => [':']
  | .null => ['n', 'u', 'l', 'l']
  | .bool true => ['t', 'r', 'u', 'e']
  | .bool false => ['f', 'a', 'l', 's', 'e']
  | .number n => (toString n).toList
  | .string s => (quoted s).toList

end Token

/-- A number is written as its digits, after a minus sign if it is negative. -/
theorem toString_int (n : Int) :
    (toString n).toList = if n < 0 then '-' :: Nat.toDigits 10 n.natAbs else Nat.toDigits 10 n.natAbs := by
  cases n with
  | ofNat m =>
      have hn : ¬ Int.ofNat m < 0 := Int.not_lt.mpr (Int.natCast_nonneg m)
      rw [if_neg hn]
      show (toString m).toList = _
      simp
  | negSucc m =>
      rw [if_pos (by omega)]
      simp [toString, Int.repr]

/-- The first character of a number. -/
theorem exists_toString_cons (n : Int) :
    ∃ c cs, (toString n).toList = c :: cs ∧ (c = '-' ∨ c.isDigit = true) := by
  rw [toString_int]
  split
  · exact ⟨_, _, rfl, .inl rfl⟩
  · obtain ⟨c, cs, hcs⟩ := List.exists_cons_of_ne_nil (Nat.toDigits_ne_nil (b := 10) (n := n.natAbs))
    have hc : c.isDigit = true :=
      Nat.isDigit_of_mem_toDigits (b := 10) (n := n.natAbs) (by decide) (by decide) (by simp [hcs])
    exact ⟨c, cs, hcs, .inr hc⟩

theorem readNumber_toString (n : Int) {rest : List Char} (h : NoDigit rest) :
    readNumber ((toString n).toList ++ rest) = some (.number n, rest) := by
  rw [toString_int]
  split
  · rename_i hneg
    rw [List.cons_append, readNumber, readDigits_append _ h, Option.map_some]
    simp only [Option.some.injEq, Prod.mk.injEq, and_true, Token.number.injEq]
    omega
  · rename_i hpos
    obtain ⟨c, cs, hcs⟩ := List.exists_cons_of_ne_nil (Nat.toDigits_ne_nil (b := 10) (n := n.natAbs))
    have hc : c.isDigit = true :=
      Nat.isDigit_of_mem_toDigits (b := 10) (n := n.natAbs) (by decide) (by decide) (by simp [hcs])
    have hminus : c ≠ '-' := by
      rintro rfl
      exact absurd hc (by decide)
    have hread := readDigits_append n.natAbs h
    rw [hcs, List.cons_append] at hread ⊢
    have hplain : readNumber (c :: (cs ++ rest)) =
        (readDigits (c :: (cs ++ rest))).map fun (n, rest) => (Token.number n, rest) := by
      unfold readNumber
      split
      · rename_i hcons
        exact absurd (List.cons.inj hcons).1 hminus
      · rfl
    rw [hplain, hread, Option.map_some]
    simp only [Option.some.injEq, Prod.mk.injEq, and_true, Token.number.injEq]
    omega

/-- A symbol does not begin like a string or a number. -/
theorem readSymbol_eq_none {c : Char} (h : c = '"' ∨ c = '-' ∨ c.isDigit = true) (cs : List Char) :
    readSymbol (c :: cs) = none := by
  have hne : ∀ d ∈ ['[', ']', '{', '}', ',', ':', 'n', 't', 'f'], d ≠ c := by
    have hall : ['[', ']', '{', '}', ',', ':', 'n', 't', 'f'].all
        (fun d => !(d == '"' || d == '-' || d.isDigit)) = true := rfl
    rintro d hd rfl
    have hd' := List.all_eq_true.mp hall d hd
    simp only [Bool.not_eq_true', Bool.or_eq_false_iff, beq_eq_false_iff_ne] at hd'
    rcases h with h | h | h
    · exact hd'.1.1 h
    · exact hd'.1.2 h
    · rw [hd'.2] at h
      cases h
  simp only [List.mem_cons, List.not_mem_nil, or_false, forall_eq_or_imp, forall_eq] at hne
  obtain ⟨h1, h2, h3, h4, h5, h6, h7, h8, h9⟩ := hne
  simp [readSymbol, symbols, stripPrefix, h1, h2, h3, h4, h5, h6, h7, h8, h9]

theorem readQuoted_quoted (s : String) (rest : List Char) :
    readQuoted ((quoted s).toList ++ rest) = some (.string s, rest) := by
  have hprint : (quoted s).toList = Format.string.print s := by
    rw [quoted, String.toList_ofList]
    rfl
  rw [readQuoted, hprint, Format.string.parse_print]
  rfl

theorem readQuoted_eq_none {c : Char} (h : '"' ≠ c) (cs : List Char) : readQuoted (c :: cs) = none := by
  have hparse : Format.string.parse (c :: cs) = none := by
    simp [Format.string, Format.reshape, Format.after, stripPrefix, h]
  rw [readQuoted, hparse, Option.map_none]

/-- **A token is read as it is written.** -/
theorem readToken_text (t : Token) {rest : List Char} (h : ∀ n, t = .number n → NoDigit rest) :
    readToken (t.text ++ rest) = some (t, rest) := by
  cases t with
  | number n =>
      obtain ⟨c, cs, hcs, hc⟩ := exists_toString_cons n
      have hquote : '"' ≠ c := by
        rintro rfl
        exact absurd hc (by decide)
      have hnumber := readNumber_toString n (h n rfl)
      rw [hcs, List.cons_append] at hnumber
      rw [readToken, Token.text, hcs, List.cons_append, readSymbol_eq_none (.inr hc), Option.none_or,
        readQuoted_eq_none hquote, Option.none_or, hnumber]
  | string s =>
      have hcons : ∃ cs, (quoted s).toList ++ rest = '"' :: cs := by
        rw [quoted, String.toList_ofList]
        exact ⟨_, rfl⟩
      have hsymbol : readSymbol ((quoted s).toList ++ rest) = none := by
        obtain ⟨cs, hcs⟩ := hcons
        rw [hcs]
        exact readSymbol_eq_none (.inl rfl) cs
      rw [readToken, Token.text, hsymbol, Option.none_or, readQuoted_quoted, Option.some_or]
  | bool b => cases b <;> rfl
  | _ => rfl

/-! ## Texts of tokens -/

/-- The text writes the tokens, with white space in between. -/
inductive Written : List Token → List Char → Prop where
  | nil : Written [] []
  | space {c : Char} {ts : List Token} {cs : List Char} (space : isSpace c = true) (rest : Written ts cs) :
      Written ts (c :: cs)
  | token {t : Token} {ts : List Token} {cs : List Char} (delimited : ∀ n, t = .number n → NoDigit cs)
      (rest : Written ts cs) : Written (t :: ts) (t.text ++ cs)

/-- A token has a text, and it does not begin with white space. -/
theorem exists_text_cons (t : Token) : ∃ c cs, t.text = c :: cs ∧ isSpace c = false := by
  cases t with
  | number n =>
      obtain ⟨c, cs, hcs, hc⟩ := exists_toString_cons n
      refine ⟨c, cs, hcs, ?_⟩
      rcases hc with rfl | hc
      · decide
      · rw [Bool.eq_false_iff]
        intro hspace
        simp only [isSpace, Bool.or_eq_true, decide_eq_true_eq] at hspace
        rcases hspace with ((rfl | rfl) | rfl) | rfl
        all_goals exact absurd hc (by decide)
  | string s => exact ⟨'"', _, by rw [Token.text, quoted, String.toList_ofList], by decide⟩
  | bool b => cases b <;> exact ⟨_, _, rfl, by decide⟩
  | _ => exact ⟨_, _, rfl, by decide⟩

theorem dropWhile_text (t : Token) (cs : List Char) :
    (t.text ++ cs).dropWhile isSpace = t.text ++ cs := by
  obtain ⟨c, rest, htext, hc⟩ := exists_text_cons t
  rw [htext, List.cons_append, List.dropWhile_cons_of_neg (by simp [hc])]

/-- There is a character for every token. -/
theorem Written.length_le {ts : List Token} {cs : List Char} (h : Written ts cs) : ts.length ≤ cs.length := by
  induction h with
  | nil => exact Nat.le_refl _
  | space space rest ih =>
      rw [List.length_cons]
      omega
  | @token t ts cs delimited rest ih =>
      obtain ⟨c, text, htext, -⟩ := exists_text_cons t
      rw [htext, List.length_append, List.length_cons, List.length_cons]
      omega

theorem Written.scan {ts : List Token} {cs : List Char} (h : Written ts cs) (fuel : Nat)
    (hfuel : ts.length < fuel) : Text.scan fuel cs = some ts := by
  induction h generalizing fuel with
  | nil =>
      obtain ⟨fuel, rfl⟩ : ∃ k, fuel = k + 1 := ⟨fuel - 1, by omega⟩
      rfl
  | @space c ts cs space rest ih =>
      obtain ⟨fuel, rfl⟩ : ∃ k, fuel = k + 1 := ⟨fuel - 1, by omega⟩
      rw [← ih _ hfuel, Text.scan, Text.scan, List.dropWhile_cons_of_pos space]
  | @token t ts cs delimited rest ih =>
      obtain ⟨fuel, rfl⟩ : ∃ k, fuel = k + 1 := ⟨fuel - 1, by omega⟩
      obtain ⟨c, text, htext, -⟩ := exists_text_cons t
      have hne : t.text ++ cs ≠ [] := by
        rw [htext]
        exact List.cons_ne_nil c _
      rw [List.length_cons] at hfuel
      rw [Text.scan, dropWhile_text, if_neg hne, readToken_text t delimited]
      simp only [Option.bind_eq_bind, Option.bind_some, ih _ (Nat.lt_of_succ_lt_succ hfuel)]
      rfl

/-! ## The tokens of a value -/

namespace Json

mutual

/-- The tokens of a value in the order they are printed. -/
def tokens : Json → List Token
  | .null => [.null]
  | .bool b => [.bool b]
  | .number n => [.number n]
  | .string s => [.string s]
  | .array [] => [.openArray, .closeArray]
  | .array (item :: items) => .openArray :: (item.tokens ++ (tokensOfItems items ++ [.closeArray]))
  | .object [] => [.openObject, .closeObject]
  | .object ((key, value) :: fields) =>
    .openObject :: .string key :: .colon :: (value.tokens ++ (tokensOfFields fields ++ [.closeObject]))

/-- The items after the first. -/
def tokensOfItems : List Json → List Token
  | [] => []
  | item :: items => .comma :: (item.tokens ++ tokensOfItems items)

/-- The fields after the first. -/
def tokensOfFields : List (String × Json) → List Token
  | [] => []
  | (key, value) :: fields => .comma :: .string key :: .colon :: (value.tokens ++ tokensOfFields fields)

end

/-- The end of an array does not begin a value. -/
theorem exists_tokens_cons (j : Json) : ∃ t ts, j.tokens = t :: ts ∧ t ≠ .closeArray := by
  cases j with
  | array items => cases items <;> exact ⟨_, _, rfl, nofun⟩
  | object fields =>
      cases fields with
      | nil => exact ⟨_, _, rfl, nofun⟩
      | cons field fields => exact ⟨_, _, rfl, nofun⟩
  | _ => exact ⟨_, _, rfl, nofun⟩

/-- An array that does not end at once has a first item. -/
theorem parseValue_openArray {fuel : Nat} {ts ts' ts'' : List Token} {item : Json} {items : List Json}
    (h : ∃ t ts', ts = t :: ts' ∧ t ≠ .closeArray) (hitem : parseValue fuel ts = some (item, ts'))
    (hitems : parseItems fuel ts' = some (items, ts'')) :
    parseValue (fuel + 1) (.openArray :: ts) = some (.array (item :: items), ts'') := by
  obtain ⟨t, rest, rfl, hclose⟩ := h
  rw [parseValue, hitem, Option.bind_eq_bind, Option.bind_some]
  · dsimp only
    rw [hitems]
    rfl
  · rintro ts ⟨rfl, -⟩
    exact hclose rfl

mutual

/-- **The tokens of a value are read as that value**, whatever follows them. -/
theorem parseValue_tokens (j : Json) (fuel : Nat) (hfuel : j.tokens.length ≤ fuel) (rest : List Token) :
    parseValue fuel (j.tokens ++ rest) = some (j, rest) := by
  -- each opening bracket uses one unit of fuel and stands for one token
  cases j with
  | null => simp [tokens, parseValue]
  | bool b => simp [tokens, parseValue]
  | number n => simp [tokens, parseValue]
  | string s => simp [tokens, parseValue]
  | array items =>
      cases items with
      | nil => simp [tokens, parseValue]
      | cons item items =>
          simp only [tokens, List.length_cons, List.length_append] at hfuel
          obtain ⟨fuel, rfl⟩ : ∃ k, fuel = k + 1 := ⟨fuel - 1, by omega⟩
          have hitem := parseValue_tokens item fuel (by omega)
            (tokensOfItems items ++ .closeArray :: rest)
          have hitems := parseItems_tokens items fuel (by omega) rest
          obtain ⟨t, ts, hts, hclose⟩ := exists_tokens_cons item
          simp only [tokens, List.cons_append, List.append_assoc, List.nil_append]
          exact parseValue_openArray ⟨t, _, by rw [hts, List.cons_append], hclose⟩ hitem hitems
  | object fields =>
      cases fields with
      | nil => simp [tokens, parseValue]
      | cons field fields =>
          obtain ⟨key, value⟩ := field
          simp only [tokens, List.length_cons, List.length_append] at hfuel
          obtain ⟨fuel, rfl⟩ : ∃ k, fuel = k + 1 := ⟨fuel - 1, by omega⟩
          have hvalue := parseValue_tokens value fuel (by omega)
            (tokensOfFields fields ++ .closeObject :: rest)
          have hfields := parseFields_tokens fields fuel (by omega) rest
          simp only [tokens, List.cons_append, List.append_assoc, List.nil_append]
          rw [parseValue, hvalue, Option.bind_eq_bind, Option.bind_some]
          dsimp only
          rw [hfields]
          rfl

theorem parseItems_tokens (items : List Json) (fuel : Nat) (hfuel : (tokensOfItems items).length ≤ fuel)
    (rest : List Token) :
    parseItems fuel (tokensOfItems items ++ .closeArray :: rest) = some (items, rest) := by
  cases items with
  | nil => simp [tokensOfItems, parseItems]
  | cons item items =>
      simp only [tokensOfItems, List.length_cons, List.length_append] at hfuel
      obtain ⟨fuel, rfl⟩ : ∃ k, fuel = k + 1 := ⟨fuel - 1, by omega⟩
      have hitem := parseValue_tokens item fuel (by omega)
        (tokensOfItems items ++ .closeArray :: rest)
      have hitems := parseItems_tokens items fuel (by omega) rest
      rw [tokensOfItems, List.cons_append, List.append_assoc, parseItems, hitem, Option.bind_eq_bind,
        Option.bind_some]
      dsimp only
      rw [hitems]
      rfl

theorem parseFields_tokens (fields : List (String × Json)) (fuel : Nat)
    (hfuel : (tokensOfFields fields).length ≤ fuel) (rest : List Token) :
    parseFields fuel (tokensOfFields fields ++ .closeObject :: rest) = some (fields, rest) := by
  cases fields with
  | nil => simp [tokensOfFields, parseFields]
  | cons field fields =>
      obtain ⟨key, value⟩ := field
      simp only [tokensOfFields, List.length_cons, List.length_append] at hfuel
      obtain ⟨fuel, rfl⟩ : ∃ k, fuel = k + 1 := ⟨fuel - 1, by omega⟩
      have hvalue := parseValue_tokens value fuel (by omega)
        (tokensOfFields fields ++ .closeObject :: rest)
      have hfields := parseFields_tokens fields fuel (by omega) rest
      simp only [tokensOfFields, List.cons_append, List.append_assoc]
      rw [parseFields, hvalue, Option.bind_eq_bind, Option.bind_some]
      dsimp only
      rw [hfields]
      rfl

end

end Json

/-! ## Prints write the tokens -/

theorem toList_render_text (text : String) (pieces : List Piece) :
    (render (.text text :: pieces)).toList = text.toList ++ (render pieces).toList := by
  simp [render, Piece.render]

theorem toList_render_line (indent : Nat) (pieces : List Piece) :
    (render (.line indent :: pieces)).toList =
      '\n' :: (List.replicate indent ' ' ++ (render pieces).toList) := by
  simp [render, Piece.render]

theorem toList_render_append (pieces pieces' : List Piece) :
    (render (pieces ++ pieces')).toList = (render pieces).toList ++ (render pieces').toList := by
  simp [render]

namespace Written

variable {ts : List Token} {cs : List Char}

theorem replicate (n : Nat) (h : Written ts cs) : Written ts (List.replicate n ' ' ++ cs) := by
  induction n with
  | zero => exact h
  | succ n ih => exact .space rfl ih

/-- A line break, with the indentation after it. -/
theorem line (indent : Nat) (h : Written ts cs) :
    Written ts ('\n' :: (List.replicate indent ' ' ++ cs)) := .space rfl (h.replicate indent)

/-- A token other than a number needs no delimiter. -/
theorem symbol (t : Token) (ht : ∀ n, t ≠ .number n) (h : Written ts cs) : Written (t :: ts) (t.text ++ cs) :=
  .token (fun n hn => absurd hn (ht n)) h

theorem comma (h : Written ts cs) : Written (.comma :: ts) (',' :: cs) := h.symbol .comma nofun

theorem colon (h : Written ts cs) : Written (.colon :: ts) (':' :: cs) := h.symbol .colon nofun

theorem quoted (s : String) (h : Written ts cs) :
    Written (.string s :: ts) ((Text.quoted s).toList ++ cs) := h.symbol (.string s) nofun

end Written

namespace Json

theorem noDigit_prettyItems (indent : Nat) (items : List Json) {cs : List Char} (h : NoDigit cs) :
    NoDigit ((render (prettyItems indent items)).toList ++ cs) := by
  cases items with
  | nil => exact h
  | cons item items =>
      rw [prettyItems, toList_render_text]
      exact noDigit_cons rfl _

theorem noDigit_prettyFields (indent : Nat) (fields : List (String × Json)) {cs : List Char} (h : NoDigit cs) :
    NoDigit ((render (prettyFields indent fields)).toList ++ cs) := by
  cases fields with
  | nil => exact h
  | cons field fields =>
      rw [prettyFields, toList_render_text]
      exact noDigit_cons rfl _

theorem toList_intercalate_cons (s : String) (rest : List String) :
    (",".intercalate (s :: rest)).toList = s.toList ++ rest.flatMap fun s => ',' :: s.toList := by
  induction rest generalizing s with
  | nil => simp
  | cons t rest ih =>
      rw [String.intercalate_cons_cons, String.toList_append, String.toList_append, ih, List.flatMap_cons,
        List.append_assoc]
      rfl

theorem noDigit_compactItems (items : List Json) {cs : List Char} (h : NoDigit cs) :
    NoDigit ((compactItems items).flatMap (fun s => ',' :: s.toList) ++ cs) := by
  cases items with
  | nil => exact h
  | cons item items => exact noDigit_cons rfl _

theorem noDigit_compactFields (fields : List (String × Json)) {cs : List Char} (h : NoDigit cs) :
    NoDigit ((compactFields fields).flatMap (fun s => ',' :: s.toList) ++ cs) := by
  cases fields with
  | nil => exact h
  | cons field fields => exact noDigit_cons rfl _

mutual

/-- Over several lines. -/
theorem written_pretty (j : Json) (indent : Nat) {ts : List Token} {cs : List Char} (hd : NoDigit cs)
    (h : Written ts cs) : Written (j.tokens ++ ts) ((render (j.pretty indent)).toList ++ cs) := by
  -- by recursion on the value; what follows it is written already, so the pieces are put in front from the back
  cases j with
  | null =>
      rw [pretty, toList_render_text, List.append_assoc]
      exact h.symbol .null nofun
  | bool b =>
      cases b with
      | true =>
          rw [pretty, toList_render_text, List.append_assoc]
          exact h.symbol (.bool true) nofun
      | false =>
          rw [pretty, toList_render_text, List.append_assoc]
          exact h.symbol (.bool false) nofun
  | number n =>
      rw [pretty, toList_render_text, List.append_assoc]
      exact .token (fun _ _ => hd) h
  | string s =>
      rw [pretty, toList_render_text, List.append_assoc]
      exact h.quoted s
  | array items =>
      cases items with
      | nil =>
          rw [pretty, toList_render_text, List.append_assoc]
          exact (h.symbol .closeArray nofun).symbol .openArray nofun
      | cons item items =>
          have hclose : Written (.closeArray :: ts) ('\n' :: (List.replicate indent ' ' ++ (']' :: cs))) :=
            (h.symbol .closeArray nofun).line indent
          have hitems := written_prettyItems items (indent + 2) (noDigit_cons rfl _) hclose
          have hitem := written_pretty item (indent + 2)
            (noDigit_prettyItems (indent + 2) items (noDigit_cons rfl _)) hitems
          have hopen := (hitem.line (indent + 2)).symbol .openArray nofun
          simp only [tokens, pretty, toList_render_text, toList_render_line, toList_render_append,
            List.append_assoc, List.cons_append]
          exact hopen
  | object fields =>
      cases fields with
      | nil =>
          rw [pretty, toList_render_text, List.append_assoc]
          exact (h.symbol .closeObject nofun).symbol .openObject nofun
      | cons field fields =>
          obtain ⟨key, value⟩ := field
          have hclose : Written (.closeObject :: ts) ('\n' :: (List.replicate indent ' ' ++ ('}' :: cs))) :=
            (h.symbol .closeObject nofun).line indent
          have hfields := written_prettyFields fields (indent + 2) (noDigit_cons rfl _) hclose
          have hvalue := written_pretty value (indent + 2)
            (noDigit_prettyFields (indent + 2) fields (noDigit_cons rfl _)) hfields
          have hkey := (((hvalue.replicate 1).colon).quoted key).line (indent + 2)
          have hopen := hkey.symbol .openObject nofun
          simp only [tokens, pretty, toList_render_text, toList_render_line, toList_render_append,
            List.append_assoc, List.cons_append]
          exact hopen

theorem written_prettyItems (items : List Json) (indent : Nat) {ts : List Token} {cs : List Char}
    (hd : NoDigit cs) (h : Written ts cs) :
    Written (tokensOfItems items ++ ts) ((render (prettyItems indent items)).toList ++ cs) := by
  cases items with
  | nil => exact h
  | cons item items =>
      have hitems := written_prettyItems items indent hd h
      have hitem := written_pretty item indent (noDigit_prettyItems indent items hd) hitems
      simp only [tokensOfItems, prettyItems, toList_render_text, toList_render_line, toList_render_append,
        List.append_assoc, List.cons_append]
      exact (hitem.line indent).comma

theorem written_prettyFields (fields : List (String × Json)) (indent : Nat) {ts : List Token}
    {cs : List Char} (hd : NoDigit cs) (h : Written ts cs) :
    Written (tokensOfFields fields ++ ts) ((render (prettyFields indent fields)).toList ++ cs) := by
  cases fields with
  | nil => exact h
  | cons field fields =>
      obtain ⟨key, value⟩ := field
      have hfields := written_prettyFields fields indent hd h
      have hvalue := written_pretty value indent (noDigit_prettyFields indent fields hd) hfields
      have hkey := (((hvalue.replicate 1).colon).quoted key).line indent
      simp only [tokensOfFields, prettyFields, toList_render_text, toList_render_line, toList_render_append,
        List.append_assoc, List.cons_append]
      exact hkey.comma

end

mutual

/-- On one line. -/
theorem written_compact (j : Json) {ts : List Token} {cs : List Char} (hd : NoDigit cs) (h : Written ts cs) :
    Written (j.tokens ++ ts) (j.compact.toList ++ cs) := by
  cases j with
  | null => exact h.symbol .null nofun
  | bool b =>
      cases b with
      | true => exact h.symbol (.bool true) nofun
      | false => exact h.symbol (.bool false) nofun
  | number n => exact .token (fun _ _ => hd) h
  | string s => exact h.quoted s
  | array items =>
      have hclose : Written (.closeArray :: ts) (']' :: cs) := h.symbol .closeArray nofun
      cases items with
      | nil => exact hclose.symbol .openArray nofun
      | cons item items =>
          have hitems := written_compactItems items (noDigit_cons rfl _) hclose
          have hitem := written_compact item (noDigit_compactItems items (noDigit_cons rfl _)) hitems
          have hopen := hitem.symbol .openArray nofun
          simp only [tokens, compact, compactItems, toList_intercalate_cons, String.toList_append,
            List.append_assoc, List.cons_append]
          exact hopen
  | object fields =>
      have hclose : Written (.closeObject :: ts) ('}' :: cs) := h.symbol .closeObject nofun
      cases fields with
      | nil => exact hclose.symbol .openObject nofun
      | cons field fields =>
          obtain ⟨key, value⟩ := field
          have hfields := written_compactFields fields (noDigit_cons rfl _) hclose
          have hvalue := written_compact value (noDigit_compactFields fields (noDigit_cons rfl _)) hfields
          have hopen := (hvalue.colon.quoted key).symbol .openObject nofun
          simp only [tokens, compact, compactFields, toList_intercalate_cons, String.toList_append,
            List.append_assoc, List.cons_append]
          exact hopen

theorem written_compactItems (items : List Json) {ts : List Token} {cs : List Char} (hd : NoDigit cs)
    (h : Written ts cs) : Written (tokensOfItems items ++ ts)
      ((compactItems items).flatMap (fun s => ',' :: s.toList) ++ cs) := by
  cases items with
  | nil => exact h
  | cons item items =>
      have hitems := written_compactItems items hd h
      have hitem := written_compact item (noDigit_compactItems items hd) hitems
      simp only [tokensOfItems, compactItems, List.flatMap_cons, List.append_assoc, List.cons_append]
      exact hitem.comma

theorem written_compactFields (fields : List (String × Json)) {ts : List Token} {cs : List Char}
    (hd : NoDigit cs) (h : Written ts cs) : Written (tokensOfFields fields ++ ts)
      ((compactFields fields).flatMap (fun s => ',' :: s.toList) ++ cs) := by
  cases fields with
  | nil => exact h
  | cons field fields =>
      obtain ⟨key, value⟩ := field
      have hfields := written_compactFields fields hd h
      have hvalue := written_compact value (noDigit_compactFields fields hd) hfields
      simp only [tokensOfFields, compactFields, List.flatMap_cons, String.toList_append, List.append_assoc,
        List.cons_append]
      exact (hvalue.colon.quoted key).comma

end

/-- A text with nothing but a value and white space after it. -/
theorem readJson_of_written {j : Json} {s : String} (h : Written j.tokens s.toList) : readJson s = some j := by
  have hscan := h.scan (s.toList.length + 1) (Nat.lt_succ_of_le h.length_le)
  have hparse := parseValue_tokens j _ (Nat.le_refl _) []
  rw [List.append_nil] at hparse
  rw [readJson, hscan, Option.bind_eq_bind, Option.bind_some, hparse]
  rfl

/-- **A printed document reads back**: over several lines, with a line break at its end. -/
theorem readJson_pretty (j : Json) : readJson (render (j.pretty 0 ++ [.line 0])) = some j := by
  apply readJson_of_written
  have hend : Written [] ['\n'] := .space rfl .nil
  have h := j.written_pretty 0 (noDigit_cons rfl []) hend
  rw [List.append_nil] at h
  rw [toList_render_append, toList_render_line]
  exact h

/-- **A printed document reads back**: on one line, with a line break at its end. -/
theorem readJson_compact (j : Json) : readJson (render [.text j.compact, .line 0]) = some j := by
  apply readJson_of_written
  have hend : Written [] ['\n'] := .space rfl .nil
  have h := j.written_compact (noDigit_cons rfl []) hend
  rw [List.append_nil] at h
  rw [toList_render_text, toList_render_line]
  exact h

end Json

end MatterTimeCtl.Text
