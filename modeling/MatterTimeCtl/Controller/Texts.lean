/-
# MatterTimeCtl.Controller.Texts — texts that have no control characters but the host's own.

A text is `Contained own` when each control character in it is one of `own`.  The literals of the program are, its
numbers are, and so is whatever has been sanitized or debug-rendered.  What is left are the texts of the host itself,
of its configuration and of the libraries it runs with: `HostTexts own` says that these have no control characters
besides `own`, and of an ordinary host it holds with `own` empty.  From there on it is a matter of putting texts
together.
-/
import MatterTimeCtl.Controller.Ops
import MatterTimeCtl.Text.Json

namespace MatterTimeCtl

open Text

/-- Every control character of the text is one of `own`. -/
def Contained (own : Char → Prop) (s : String) : Prop := ∀ c ∈ s.toList, isControl c = true → own c

/-- The same of a text that may be absent. -/
def OptContained (own : Char → Prop) (o : Option String) : Prop := ∀ s, o = some s → Contained own s

section Contained

variable {own : Char → Prop}

theorem isControl_eq_false {c : Char} (hlo : 32 ≤ c.toNat) (hhi : ¬ (127 ≤ c.toNat ∧ c.toNat < 160)) :
    isControl c = false := by
  simp only [isControl, Bool.or_eq_false_iff, decide_eq_false_iff_not, Bool.and_eq_false_iff]
  omega

/-- Printable ASCII is no control character. -/
theorem printable_own {c : Char} (hlo : 32 ≤ c.toNat) (hhi : c.toNat < 127) : isControl c = true → own c := by
  intro h
  rw [isControl_eq_false hlo (by omega)] at h
  cases h

/-- A literal of the program. -/
theorem contained_literal {l : List Char} (h : l.all (fun c => 32 ≤ c.toNat && c.toNat < 127) = true) :
    Contained own (String.ofList l) := by
  refine all_of_ascii (fun _ => printable_own) ?_
  rw [String.toList_ofList]
  exact h

@[simp] theorem contained_append {s t : String} : Contained own (s ++ t) ↔ Contained own s ∧ Contained own t := by
  simp only [Contained, String.toList_append, List.forall_mem_append]

theorem Contained.append {s t : String} (hs : Contained own s) (ht : Contained own t) : Contained own (s ++ t) :=
  contained_append.mpr ⟨hs, ht⟩

theorem contained_int (n : Int) : Contained own (toString n) := toString_forall (fun _ => printable_own) n

theorem contained_nat (n : Nat) : Contained own (toString n) := contained_int n

theorem contained_u64 (n : UInt64) : Contained own (toString n) := contained_nat n.toNat

theorem contained_u8 (n : UInt8) : Contained own (toString n) := contained_nat n.toNat

theorem contained_optNone : OptContained own none := nofun

theorem contained_optSome {s : String} (h : Contained own s) : OptContained own (some s) := by
  rintro _ ⟨⟩
  exact h

theorem OptContained.getD {o : Option String} (h : OptContained own o) {s : String} (hs : Contained own s) :
    Contained own (o.getD s) := by
  cases o with
  | none => exact hs
  | some t => exact h t rfl

/-- Texts that are joined with a separator. -/
theorem contained_intercalate {separator : String} {texts : List String} (hs : Contained own separator)
    (h : ∀ s ∈ texts, Contained own s) : Contained own (separator.intercalate texts) := by
  induction texts with
  | nil =>
      rw [String.intercalate_nil]
      exact contained_literal rfl
  | cons s texts ih =>
      obtain ⟨hhead, htail⟩ := List.forall_mem_cons.mp h
      cases texts with
      | nil =>
          rw [String.intercalate_singleton]
          exact hhead
      | cons t texts =>
          rw [String.intercalate_cons_cons]
          exact (hhead.append hs).append (ih htail)

/-! ## Sanitized texts -/

/-- Nothing of a control character gets through the sanitizer. -/
theorem contained_sanitize (s : String) : Contained own (sanitize s) := by
  intro c hc hcontrol
  rw [sanitize, String.toList_map, List.mem_map] at hc
  obtain ⟨d, -, rfl⟩ := hc
  split at hcontrol
  -- a question mark in its place is none
  · exact absurd hcontrol (by decide)
  · rename_i hd
    exact absurd hcontrol hd

/-- Nor through a debug rendering. -/
theorem contained_debug (ext : Externals) (s : String) : Contained own (ext.strDebug s) := by
  intro c hc hcontrol
  obtain ⟨hlo, hhi⟩ := ext.strDebug_printable s c hc
  rw [isControl_eq_false hlo hhi] at hcontrol
  cases hcontrol

/-! ## Times and durations -/

theorem contained_compactDuration (micros : Nat) : Contained own (compactDuration micros) := by
  have unit (n : Nat) {l : List Char} (h : l.all (fun c => 32 ≤ c.toNat && c.toNat < 127) = true) :
      Contained own (toString n ++ String.ofList l) := (contained_nat n).append (contained_literal h)
  unfold compactDuration
  split
  · exact unit _ rfl
  · split
    · exact unit _ rfl
    · dsimp only
      split
      · split
        · exact unit _ rfl
        · exact ((unit _ (l := ['.']) rfl).append (contained_nat _)).append (contained_literal (l := ['s']) rfl)
      -- days to seconds: each unit is there or left out
      · refine contained_intercalate (contained_literal rfl) fun s hs => ?_
        obtain ⟨part, hpart, hs⟩ := List.mem_filterMap.mp hs
        have parts : OptContained own part := by
          simp only [List.mem_cons, List.not_mem_nil, or_false] at hpart
          rcases hpart with rfl | rfl | rfl | rfl <;> split <;>
            first | exact contained_optNone | exact contained_optSome (unit _ rfl)
        exact parts s hs

theorem contained_describeDelta (delta : Int) : Contained own (describeDelta delta) := by
  have direction : Contained own (if delta < 0 then "behind" else "ahead") := by
    split
    · exact contained_literal rfl
    · exact contained_literal rfl
  have duration : Contained own (compactDuration delta.natAbs) := contained_compactDuration _
  have magnitude := (duration.append (contained_literal (l := [' ']) rfl)).append direction
  unfold describeDelta
  dsimp only
  split
  · exact (((((contained_literal rfl).append duration).append
      (contained_literal (l := [' ']) rfl)).append direction).append (contained_literal (l := [')']) rfl))
  · exact magnitude

theorem contained_assessment (a : ClockAssessment) : Contained own a.display := by
  unfold ClockAssessment.display
  split
  · exact (contained_literal rfl).append (contained_describeDelta _)
  · exact (contained_literal rfl).append (contained_describeDelta _)
  · exact contained_literal rfl

theorem contained_pad2 (n : Nat) : Contained own (pad2 n) := by
  unfold pad2
  split
  · exact (contained_literal rfl).append (contained_nat n)
  · exact contained_nat n

theorem contained_utcOffset (offsetSeconds : Int) : Contained own (formatUtcOffset offsetSeconds) := by
  have sign : Contained own (if offsetSeconds < 0 then "-" else "+") := by
    split
    · exact contained_literal rfl
    · exact contained_literal rfl
  exact ((((contained_literal rfl).append sign).append (contained_pad2 _)).append
    (contained_literal rfl)).append (contained_pad2 _)

end Contained

/-! ## The texts of the host -/

/-- The texts of the host itself have no control characters but `own`. -/
structure HostTexts (own : Char → Prop) (ext : Externals) (config : Config) : Prop where
  source : Contained own config.source.display
  storagePath : Contained own config.storagePath.display
  timezone : Contained own config.timezone
  fabricLabel : Contained own config.fabricLabel
  ioDisplay : ∀ e, Contained own (ext.ioDisplay e)
  matterDebug : ∀ e, Contained own (ext.matterDebug e)
  timestampDisplay : ∀ t, Contained own (ext.timestampDisplay t)
  /-- What the parser says of an identity.json that it cannot read. -/
  identityError : ∀ raw cause, ext.identityJson.decode raw = .error cause → Contained own cause

/-! ## The texts of failures -/

/-- The class has every failure whose texts are contained, refusals and panics aside. -/
structure FailureClass (own : Char → Prop) (Q : Failure → Prop) : Prop where
  message : ∀ {text}, Contained own text → Q (.message text)
  io : ∀ {cause}, Q (.io cause)
  matter : ∀ {what cause}, Contained own what → Q (.matter what cause)
  json : ∀ {cause}, Contained own cause → Q (.json cause)
  timedOut : ∀ {what secs}, Contained own what → Q (.timedOut what secs)
  context : ∀ {what cause}, Contained own what → Q cause → Q (.context what cause)

/-- The class has the failures around an operation too: those of the storage, of the fabric and of the sockets. -/
structure RunFailureClass (own : Char → Prop) (Q : Failure → Prop) (ext : Externals) (config : Config) : Prop
    extends FailureClass own Q where
  refused : ∀ why, Q (.refused why)
  identityError : ∀ raw cause, ext.identityJson.decode raw = .error cause → Contained own cause
  storagePath : Contained own config.storagePath.display

/-- The rendering of the failure is contained. -/
def RendersContained (own : Char → Prop) (ext : Externals) (config : Config) (e : Failure) : Prop :=
  Contained own (ext.render config e)

section Render

variable {own : Char → Prop} {ext : Externals} {config : Config}

theorem HostTexts.failureClass (host : HostTexts own ext config) :
    FailureClass own (RendersContained own ext config) where
  message h := h
  io := host.ioDisplay _
  matter h := (h.append (contained_literal rfl)).append (host.matterDebug _)
  json h := h
  timedOut h := ((h.append (contained_literal rfl)).append (contained_nat _)).append
    (contained_literal rfl)
  context h h' := (h.append (contained_literal rfl)).append h'

theorem HostTexts.renders_refused (host : HostTexts own ext config) (why : Refusal) :
    RendersContained own ext config (.refused why) := by
  have literal : ∀ {l : List Char}, l.all (fun c => 32 ≤ c.toNat && c.toNat < 127) = true →
      Contained own (String.ofList l) := contained_literal
  cases why with
  | identityUnreadable devices cause =>
      exact (((((((literal rfl).append host.storagePath).append (literal rfl)).append
        (contained_nat devices)).append (literal rfl)).append (literal rfl)).append (host.ioDisplay cause)).append
        (literal rfl)
  | identityWithoutFabric =>
      exact (((((host.storagePath.append (literal rfl)).append host.storagePath).append
        (literal rfl)).append (literal rfl)).append (literal rfl))
  | registryWithoutFabric devices =>
      exact (((((literal rfl).append (contained_nat devices)).append (literal rfl)).append
        (literal rfl)).append (literal rfl))

theorem HostTexts.runFailureClass (host : HostTexts own ext config) :
    RunFailureClass own (RendersContained own ext config) ext config where
  toFailureClass := host.failureClass
  refused := host.renders_refused
  identityError := host.identityError
  storagePath := host.storagePath

theorem rendersContained_panicked : RendersContained own ext config .panicked := contained_literal rfl

end Render

end MatterTimeCtl
