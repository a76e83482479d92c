/-
# MatterTimeCtl.Files.FileSystem — file contents, the calls that change them, and their faults.

A file system is a partial map from paths to byte contents.  Calls take effect in program order and
`rename` is atomic; everything else about a call is the fault model: any call may fail, and a
`writeAll` that fails (or is cut short by a stop, which is the same thing followed by no further call)
leaves any prefix of its bytes behind.  Only `pathExists` always tells the truth.

The second half is the frame reasoning for programs that build a file under a scratch name and
rename it into place: `AgreeOn S` relates two file systems that have the same contents at the lasting
paths `S`, so "a reader of a lasting path cannot tell" is `AgreeOn S`, and an atomic replacement is
one `Function.update` up to it.
-/
import Mathlib.Logic.Function.Basic

namespace MatterTimeCtl.Files

/-- The contents of the files that exist. -/
abbrev FileMap (π : Type) := π → Option ByteArray

/-- The two kinds of I/O error the code tells apart. -/
inductive IoError where
  | notFound
  | other
  deriving DecidableEq, Repr

/-- The calls on files. -/
inductive FileCall (π : Type) where
  | pathExists (p : π)
  | readToString (p : π)
  /-- Read a file as bytes. -/
  | read (p : π)
  /-- Open for writing, creating the file or truncating it. -/
  | openTruncate (p : π)
  | writeAll (p : π) (bytes : ByteArray)
  | syncAll (p : π)
  | rename (source target : π)
  | removeFile (p : π)

/-- What each call returns. -/
abbrev FileCall.Answer {π : Type} : FileCall π → Type
  | .pathExists _ => Bool
  | .readToString _ => Except IoError String
  | .read _ => Except IoError ByteArray
  | .openTruncate _ | .writeAll _ _ | .syncAll _ | .rename _ _ | .removeFile _ => Except IoError Unit

/-- The environment's move on a file call: it succeeds as far as the file system allows, or it fails;
`written` is how many bytes a failing `writeAll` had already put into the file. -/
inductive Io where
  | succeed
  | fail (written : Nat)
  deriving DecidableEq, Repr

variable {π : Type}

/-- Reading a file as text: missing, not UTF-8, or its text. -/
def readText (fs : FileMap π) (p : π) : Except IoError String :=
  match fs p with
  | none => .error .notFound
  | some bytes =>
    match String.fromUTF8? bytes with
    | none => .error .other
    | some text => .ok text

/-- Reading a file: missing, or its bytes. -/
def readBytes (fs : FileMap π) (p : π) : Except IoError ByteArray :=
  match fs p with
  | none => .error .notFound
  | some bytes => .ok bytes

/-- An operation on an existing file. -/
def onExisting (fs : FileMap π) (p : π) : Except IoError Unit :=
  match fs p with
  | none => .error .notFound
  | some _ => .ok ()

namespace FileCall

/-- What the program sees of the environment's move. -/
def answer (fs : FileMap π) : (c : FileCall π) → Io → c.Answer
  | .pathExists p, _ => (fs p).isSome
  | .readToString p, .succeed => readText fs p
  | .readToString _, .fail _ => .error .other
  | .read p, .succeed => readBytes fs p
  | .read _, .fail _ => .error .other
  | .openTruncate _, .succeed => .ok ()
  | .openTruncate _, .fail _ => .error .other
  | .writeAll p _, .succeed => onExisting fs p
  | .writeAll _ _, .fail _ => .error .other
  | .syncAll p, .succeed => onExisting fs p
  | .syncAll _, .fail _ => .error .other
  | .rename source _, .succeed => onExisting fs source
  | .rename _ _, .fail _ => .error .other
  | .removeFile p, .succeed => onExisting fs p
  | .removeFile _, .fail _ => .error .other

/-- What becomes of the files. -/
def next [DecidableEq π] (fs : FileMap π) : FileCall π → Io → FileMap π
  | .openTruncate p, .succeed => Function.update fs p (some ByteArray.empty)
  | .writeAll p bytes, .succeed => Function.update fs p ((fs p).map (· ++ bytes))
  | .writeAll p bytes, .fail n => Function.update fs p ((fs p).map (· ++ bytes.extract 0 n))
  | .rename source target, .succeed =>
    match fs source with
    | none => fs
    | some bytes => Function.update (Function.update fs source none) target (some bytes)
  | .removeFile p, .succeed => Function.update fs p none
  | _, _ => fs

end FileCall

/-- All paths the call names are in `S`. -/
def FileCall.On (S : π → Prop) : FileCall π → Prop
  | .pathExists p | .readToString p | .read p | .openTruncate p | .writeAll p _ | .syncAll p
  | .removeFile p => S p
  | .rename source target => S source ∧ S target

theorem fromUTF8?_toUTF8 (text : String) : String.fromUTF8? text.toUTF8 = some text := by
  simp [String.fromUTF8?, text.isValidUTF8, String.fromUTF8]

theorem readText_ok {fs : FileMap π} {p : π} {text : String}
    (h : fs p = some text.toUTF8) : readText fs p = .ok text := by
  simp only [readText, h, fromUTF8?_toUTF8]

theorem readText_none {fs : FileMap π} {p : π} (h : fs p = none) :
    readText fs p = .error .notFound := by
  simp [readText, h]

/-! ## Agreement on the lasting paths -/

/-- The two file systems have the same contents at every path in `S`. -/
def AgreeOn (S : π → Prop) (fs fs' : FileMap π) : Prop := ∀ p, S p → fs' p = fs p

variable {S : π → Prop} {fs fs' fs'' : FileMap π}

theorem AgreeOn.refl (S : π → Prop) (fs : FileMap π) : AgreeOn S fs fs := fun _ _ => rfl

theorem AgreeOn.symm (h : AgreeOn S fs fs') : AgreeOn S fs' fs := fun p hp => (h p hp).symm

theorem AgreeOn.trans (h : AgreeOn S fs fs') (h' : AgreeOn S fs' fs'') : AgreeOn S fs fs'' :=
  fun p hp => (h' p hp).trans (h p hp)

/-- A call on paths of agreement is answered alike. -/
theorem AgreeOn.answer (h : AgreeOn S fs fs') {c : FileCall π} (hc : c.On S) (io : Io) :
    c.answer fs' io = c.answer fs io := by
  cases c with
  | pathExists p => simp only [FileCall.answer, h p hc]
  | readToString p => cases io <;> simp only [FileCall.answer, readText, h p hc]
  | read p => cases io <;> simp only [FileCall.answer, readBytes, h p hc]
  | openTruncate p => cases io <;> rfl
  | writeAll p bytes => cases io <;> simp only [FileCall.answer, onExisting, h p hc]
  | syncAll p => cases io <;> simp only [FileCall.answer, onExisting, h p hc]
  | rename source target => cases io <;> simp only [FileCall.answer, onExisting, h source hc.1]
  | removeFile p => cases io <;> simp only [FileCall.answer, onExisting, h p hc]

variable [DecidableEq π]

/-- Whatever happens to a scratch file, agreement is kept. -/
theorem AgreeOn.update_scratch (h : AgreeOn S fs fs') {t : π} (ht : ¬ S t) (b : Option ByteArray) :
    AgreeOn S fs (Function.update fs' t b) := by
  intro p hp
  have hpt : p ≠ t := by
    rintro rfl
    exact ht hp
  rw [Function.update_of_ne hpt]
  exact h p hp

/-- Equal changes to a lasting file keep agreement. -/
theorem AgreeOn.update (h : AgreeOn S fs fs') (p : π) (b : Option ByteArray) :
    AgreeOn S (Function.update fs p b) (Function.update fs' p b) := by
  intro q hq
  by_cases hqp : q = p
  · subst hqp
    simp
  · rw [Function.update_of_ne hqp, Function.update_of_ne hqp]
    exact h q hq

/-- Renaming a scratch file into place replaces the target and nothing else. -/
theorem AgreeOn.rename_scratch (h : AgreeOn S fs fs') {t p : π} (ht : ¬ S t) {bytes : ByteArray}
    (hb : fs' t = some bytes) :
    AgreeOn S (Function.update fs p (some bytes)) ((FileCall.rename t p).next fs' .succeed) := by
  simp only [FileCall.next, hb]
  exact (h.update_scratch ht none).update p (some bytes)

/-- A call on paths of agreement keeps agreement. -/
theorem AgreeOn.next (h : AgreeOn S fs fs') {c : FileCall π} (hc : c.On S) (io : Io) :
    AgreeOn S (c.next fs io) (c.next fs' io) := by
  cases c with
  | pathExists p | readToString p | read p | syncAll p => cases io <;> exact h
  | openTruncate p =>
      cases io with
      | succeed => exact h.update p _
      | fail n => exact h
  | writeAll p bytes =>
      cases io <;> simp only [FileCall.next, h p hc]
      all_goals exact h.update p _
  | rename source target =>
      cases io with
      | succeed =>
          simp only [FileCall.next, h source hc.1]
          split
          · exact h
          · exact (h.update source none).update target _
      | fail n => exact h
  | removeFile p =>
      cases io with
      | succeed => exact h.update p none
      | fail n => exact h

end MatterTimeCtl.Files
