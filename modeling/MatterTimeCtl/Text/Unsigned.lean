/-
# MatterTimeCtl.Text.Unsigned — parsing bounded decimal numbers.

`parseUnsigned bound` reads what the unsigned `parse` of fixed-width integer types reads: at least one
ASCII digit after an optional plus sign, with a value below `bound`; every prefix has to fit as well,
which is no further restriction because prefixes are smaller.  Decimal digits as they are printed read
back as the number they were printed from.
-/

namespace MatterTimeCtl.Text

/-- A digit appended to a number, unless it is no digit or the result does not fit. -/
def pushDigit (bound n : Nat) (c : Char) : Option Nat :=
  if c.isDigit then
    let v := 10 * n + (c.toNat - '0'.toNat)
    if v < bound then some v else none
  else none

def parseUnsigned (bound : Nat) (cs : List Char) : Option Nat :=
  let digits := match cs with
    | '+' :: rest => rest
    | _ => cs
  if digits.isEmpty then none else digits.foldlM (pushDigit bound) 0

theorem le_ofDigitChars (cs : List Char) (init : Nat) : init ≤ Nat.ofDigitChars 10 cs init := by
  induction cs generalizing init with
  | nil => simp
  | cons c cs ih =>
      rw [Nat.ofDigitChars_cons]
      exact Nat.le_trans (by omega) (ih _)

theorem foldlM_pushDigit {bound : Nat} {cs : List Char} (hcs : ∀ c ∈ cs, c.isDigit) (init : Nat)
    (h : Nat.ofDigitChars 10 cs init < bound) :
    cs.foldlM (pushDigit bound) init = some (Nat.ofDigitChars 10 cs init) := by
  induction cs generalizing init with
  | nil => simp
  | cons c cs ih =>
      rw [Nat.ofDigitChars_cons] at h ⊢
      have hv : 10 * init + (c.toNat - '0'.toNat) < bound := Nat.lt_of_le_of_lt (le_ofDigitChars cs _) h
      have hc : c.isDigit = true := hcs c (List.mem_cons_self ..)
      rw [List.foldlM_cons]
      unfold pushDigit
      simp only [hc, if_true, hv]
      exact ih (fun d hd => hcs d (List.mem_cons_of_mem _ hd)) _ h

/-- **Printed numbers read back.** -/
theorem parseUnsigned_toDigits {bound n : Nat} (h : n < bound) :
    parseUnsigned bound (Nat.toDigits 10 n) = some n := by
  have hdigits : ∀ c ∈ Nat.toDigits 10 n, c.isDigit := fun c hc =>
    Nat.isDigit_of_mem_toDigits (by decide) (by decide) hc
  have hfold := @foldlM_pushDigit bound _ hdigits 0 (by rwa [Nat.ofDigitChars_ten_toDigits])
  rw [Nat.ofDigitChars_ten_toDigits] at hfold
  unfold parseUnsigned
  cases hcs : Nat.toDigits 10 n with
  | nil => exact absurd hcs Nat.toDigits_ne_nil
  | cons c cs =>
      rw [hcs] at hdigits hfold
      have hplus : c ≠ '+' := by
        rintro rfl
        exact absurd (hdigits '+' (List.mem_cons_self ..)) (by decide)
      split
      · rename_i hcons
        exact absurd (List.cons.inj hcons).1 hplus
      · simpa using hfold

/-! ## Exactly what is read -/

/-- Without a plus sign at its front. -/
def dropPlus : List Char → List Char
  | '+' :: rest => rest
  | cs => cs

theorem dropPlus_cons_of_ne {c : Char} (cs : List Char) (h : c ≠ '+') : dropPlus (c :: cs) = c :: cs := by
  unfold dropPlus
  split
  · rename_i hcons
    exact absurd (List.cons.inj hcons).1 h
  · rfl

theorem parseUnsigned_eq (bound : Nat) (cs : List Char) :
    parseUnsigned bound cs =
      if (dropPlus cs).isEmpty then none else (dropPlus cs).foldlM (pushDigit bound) 0 := by
  unfold parseUnsigned dropPlus
  split <;> rfl

theorem eq_of_foldlM_pushDigit {bound : Nat} {cs : List Char} {init n : Nat}
    (h : cs.foldlM (pushDigit bound) init = some n) :
    (∀ c ∈ cs, c.isDigit) ∧ n = Nat.ofDigitChars 10 cs init ∧ (cs ≠ [] → n < bound) := by
  induction cs generalizing init with
  | nil =>
      obtain rfl := Option.some.inj h
      exact ⟨fun c hc => (by cases hc), by simp, fun hne => absurd rfl hne⟩
  | cons c cs ih =>
      rw [List.foldlM_cons] at h
      obtain ⟨v, hv, hrest⟩ := Option.bind_eq_some_iff.mp h
      unfold pushDigit at hv
      dsimp only at hv
      split at hv
      · rename_i hdigit
        split at hv
        · rename_i hlt
          obtain rfl := Option.some.inj hv
          obtain ⟨hall, hn, hbound⟩ := ih hrest
          refine ⟨List.forall_mem_cons.mpr ⟨hdigit, hall⟩, by rw [hn, Nat.ofDigitChars_cons], fun _ => ?_⟩
          cases cs with
          | nil =>
              simp only [Nat.ofDigitChars_nil] at hn
              omega
          | cons d cs => exact hbound (List.cons_ne_nil d cs)
        · cases hv
      · cases hv

/-- **What is read**: digits after an optional plus sign, whose value is below the bound. -/
theorem parseUnsigned_eq_some_iff {bound n : Nat} {cs : List Char} :
    parseUnsigned bound cs = some n ↔
      dropPlus cs ≠ [] ∧ (∀ c ∈ dropPlus cs, c.isDigit) ∧ n = Nat.ofDigitChars 10 (dropPlus cs) 0 ∧
        n < bound := by
  rw [parseUnsigned_eq]
  constructor
  · intro h
    split at h
    · cases h
    · rename_i hne
      have hne : dropPlus cs ≠ [] := fun he => hne (by rw [he]; rfl)
      obtain ⟨hall, hn, hbound⟩ := eq_of_foldlM_pushDigit h
      exact ⟨hne, hall, hn, hbound hne⟩
  · rintro ⟨hne, hall, rfl, hbound⟩
    rw [if_neg (by simpa using hne)]
    exact foldlM_pushDigit hall 0 hbound

/-! ## Numbers in front of other text -/

/-- A run of digits. -/
def readDigits (cs : List Char) : Option (Nat × List Char) :=
  let digits := cs.takeWhile Char.isDigit
  if digits = [] then none else some (Nat.ofDigitChars 10 digits 0, cs.dropWhile Char.isDigit)

/-- What may follow a number: not another digit. -/
def NoDigit (cs : List Char) : Prop := ∀ c ∈ cs.head?, c.isDigit = false

theorem noDigit_cons {c : Char} (h : c.isDigit = false) (cs : List Char) : NoDigit (c :: cs) := by
  intro d hd
  obtain rfl := Option.mem_some_iff.mp hd
  exact h

theorem readDigits_append (n : Nat) {rest : List Char} (h : NoDigit rest) :
    readDigits (Nat.toDigits 10 n ++ rest) = some (n, rest) := by
  have hdigits : ∀ c ∈ Nat.toDigits 10 n, c.isDigit = true := fun c hc =>
    Nat.isDigit_of_mem_toDigits (by decide) (by decide) hc
  have htake : rest.takeWhile Char.isDigit = [] := by
    cases rest with
    | nil => rfl
    | cons c cs => exact List.takeWhile_cons_of_neg (by simp [h c rfl])
  have hdrop : rest.dropWhile Char.isDigit = rest := by
    cases rest with
    | nil => rfl
    | cons c cs => exact List.dropWhile_cons_of_neg (by simp [h c rfl])
  unfold readDigits
  rw [List.takeWhile_append_of_pos hdigits, List.dropWhile_append_of_pos hdigits, htake, hdrop, List.append_nil]
  rw [if_neg Nat.toDigits_ne_nil, Nat.ofDigitChars_ten_toDigits]

end MatterTimeCtl.Text
