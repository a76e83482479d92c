/-
# MatterTimeCtl.Roster.Machine — members admitted under one authority, by ascending numbers.

An *authority* is founded once.  Members are admitted under it, each with the number a counter stands at and with
something that the authority issued to it, and can never be made to give it back.  A *roster* keeps a record for
some of the numbers that were admitted; a record is written and struck off in any order, but the counter is moved
on only past a number that was admitted and has a record.

The module is about any types of authorities, of what members hold, of numbers and of records.
-/
import Mathlib.Logic.Relation
import Mathlib.Logic.Function.Iterate

namespace MatterTimeCtl.Roster

open Relation (ReflTransGen)

variable {A T N R : Type}

/-- A state of the machine. -/
structure Roll (A T N R : Type) where
  authority : Option A
  /-- The number the next member gets. -/
  next : N
  /-- Who was admitted, the latest first, and what it holds. -/
  members : List (N × T)
  roster : N → Option R

/-- What a step does, and to which number. -/
inductive Act (N : Type) where
  | found
  | enter (n : N)
  | write (n : N)
  | advance (n : N)
  | strike (n : N)

/-- The rules: what an authority issues, and how numbers are counted. -/
structure Rules (A T N : Type) where
  Issues : A → T → Prop
  first : N
  succ : N → N

/-- Before anything was founded. -/
def Rules.blank (rules : Rules A T N) : Roll A T N R :=
  { authority := none, next := rules.first, members := [], roster := fun _ => none }

/-- The numbers that were admitted. -/
def Roll.numbers (s : Roll A T N R) : List N := s.members.map Prod.fst

section Rolls

variable {rules : Rules A T N} {s : Roll A T N R}

/-! ## What is to hold -/

/-- The first `k` numbers. -/
def Rules.upTo (rules : Rules A T N) (k : Nat) : List N := (List.range k).map fun i => rules.succ^[i] rules.first

theorem mem_upTo {n : N} {k : Nat} : n ∈ rules.upTo k ↔ ∃ i < k, rules.succ^[i] rules.first = n := by
  simp only [Rules.upTo, List.mem_map, List.mem_range]

/-- **What every state of a machine that started blank satisfies.** -/
structure Sound (rules : Rules A T N) (s : Roll A T N R) : Prop where
  /-- Members hold what the authority issued. -/
  issued : ∀ j ∈ s.members, ∃ a, s.authority = some a ∧ rules.Issues a j.2
  /-- Records are of members. -/
  roster : ∀ n, (s.roster n).isSome → n ∈ s.numbers
  /-- The counter never runs ahead of the members, and they are at most one ahead of it. -/
  counted : ∃ k, s.next = rules.succ^[k] rules.first ∧ rules.upTo k ⊆ s.numbers ∧
    s.numbers ⊆ rules.upTo (k + 1)

theorem sound_blank : Sound rules (rules.blank : Roll A T N R) where
  issued := fun _ h => nomatch h
  roster := fun _ h => nomatch h
  counted := ⟨0, rfl, List.nil_subset _, List.nil_subset _⟩

/-- What a run keeps of a state it started from. -/
structure Later (rules : Rules A T N) (s s' : Roll A T N R) : Prop where
  authority : ∀ a, s.authority = some a → s'.authority = some a
  members : s.members <:+ s'.members
  /-- Once there is an authority the counter only moves on. -/
  next : s.authority.isSome → ∃ k, s'.next = rules.succ^[k] s.next

theorem Later.refl (s : Roll A T N R) : Later rules s s := ⟨fun _ h => h, List.suffix_rfl, fun _ => ⟨0, rfl⟩⟩

theorem Later.trans {s₁ s₂ s₃ : Roll A T N R} (h : Later rules s₁ s₂) (h' : Later rules s₂ s₃) :
    Later rules s₁ s₃ := by
  refine ⟨fun a ha => h'.authority a (h.authority a ha), h.members.trans h'.members, fun founded => ?_⟩
  obtain ⟨a, ha⟩ := Option.isSome_iff_exists.mp founded
  obtain ⟨k, hk⟩ := h.next founded
  obtain ⟨k', hk'⟩ := h'.next (Option.isSome_iff_exists.mpr ⟨a, h.authority a ha⟩)
  exact ⟨k' + k, by rw [hk', hk, Function.iterate_add_apply]⟩

end Rolls

/-! ## Steps -/

section Steps

variable [DecidableEq N]

/-- **One step.** -/
inductive Step (rules : Rules A T N) : Act N → Roll A T N R → Roll A T N R → Prop where
  | found {s : Roll A T N R} (a : A) (nobody : s.authority = none) :
      Step rules .found s { s with authority := some a, next := rules.first }
  | enter {s : Roll A T N R} {a : A} {t : T} (founded : s.authority = some a) (issued : rules.Issues a t) :
      Step rules (.enter s.next) s { s with members := (s.next, t) :: s.members }
  | write {s : Roll A T N R} {n : N} (r : R) (admitted : n ∈ s.numbers) :
      Step rules (.write n) s { s with roster := Function.update s.roster n (some r) }
  | advance {s : Roll A T N R} (admitted : s.next ∈ s.numbers) (recorded : (s.roster s.next).isSome) :
      Step rules (.advance s.next) s { s with next := rules.succ s.next }
  | strike {s : Roll A T N R} (n : N) :
      Step rules (.strike n) s { s with roster := Function.update s.roster n none }

/-- A step that is one of those allowed. -/
def Moves (rules : Rules A T N) (allowed : Act N → Prop) (s s' : Roll A T N R) : Prop :=
  ∃ act, allowed act ∧ Step rules act s s'

variable {rules : Rules A T N} {allowed : Act N → Prop} {act : Act N} {s s' : Roll A T N R}

/-! ### What one step keeps -/

theorem Step.authority_of_some {a : A} (h : Step rules act s s') (ha : s.authority = some a) :
    s'.authority = some a := by
  cases h with
  | found _ nobody =>
      rw [nobody] at ha
      cases ha
  | _ => exact ha

theorem Step.members (h : Step rules act s s') : s.members <:+ s'.members := by
  cases h with
  | enter _ _ => exact List.suffix_cons ..
  | _ => exact List.suffix_rfl

/-- A record is lost only by being struck off. -/
theorem Step.roster_isSome {n : N} (h : Step rules act s s') (hn : (s.roster n).isSome)
    (kept : act ≠ .strike n) : (s'.roster n).isSome := by
  cases h with
  | @write _ m r _ =>
      by_cases hm : n = m
      · subst hm
        simp
      · simpa [Function.update_of_ne hm] using hn
  | strike m =>
      by_cases hm : n = m
      · exact absurd (congrArg Act.strike hm.symm) kept
      · simpa [Function.update_of_ne hm] using hn
  | _ => exact hn

/-! ### The invariant -/

/-- **Every step keeps it.** -/
theorem Step.sound (h : Step rules act s s') (hs : Sound rules s) : Sound rules s' := by
  obtain ⟨k, hnext, hlow, hhigh⟩ := hs.counted
  cases h with
  | found a nobody =>
      -- nobody was admitted under no authority, so counting may start over
      have none_ : s.members = [] := by
        refine List.eq_nil_iff_forall_not_mem.mpr fun j hj => ?_
        obtain ⟨a, ha, -⟩ := hs.issued j hj
        rw [nobody] at ha
        cases ha
      refine ⟨fun j hj => ?_, hs.roster, 0, rfl, List.nil_subset _, ?_⟩
      · rw [none_] at hj
        cases hj
      · simp [Roll.numbers, none_]
  | @enter _ a t founded issued =>
      refine ⟨fun j hj => ?_, fun n hn => List.mem_cons_of_mem _ (hs.roster n hn), k, hnext,
        fun n hn => List.mem_cons_of_mem _ (hlow hn), fun n hn => ?_⟩
      · rcases List.mem_cons.mp hj with rfl | hj
        · exact ⟨a, founded, issued⟩
        · exact hs.issued j hj
      · rcases List.mem_cons.mp hn with rfl | hn
        · exact mem_upTo.mpr ⟨k, k.lt_succ_self, hnext.symm⟩
        · exact hhigh hn
  | @write _ n r admitted =>
      refine ⟨hs.issued, fun m hm => ?_, k, hnext, hlow, hhigh⟩
      by_cases h : m = n
      · exact h ▸ admitted
      · exact hs.roster m (by simpa [Function.update_of_ne h] using hm)
  | advance admitted recorded =>
      refine ⟨hs.issued, hs.roster, k + 1, ?_, fun n hn => ?_, fun n hn => ?_⟩
      · rw [Function.iterate_succ_apply', hnext]
      · obtain ⟨i, hi, rfl⟩ := mem_upTo.mp hn
        rcases Nat.lt_succ_iff_lt_or_eq.mp hi with hi | rfl
        · exact hlow (mem_upTo.mpr ⟨i, hi, rfl⟩)
        · exact hnext ▸ admitted
      · obtain ⟨i, hi, rfl⟩ := mem_upTo.mp (hhigh hn)
        exact mem_upTo.mpr ⟨i, by omega, rfl⟩
  | strike n =>
      refine ⟨hs.issued, fun m hm => hs.roster m ?_, k, hnext, hlow, hhigh⟩
      by_cases h : m = n
      · subst h
        simp at hm
      · simpa [Function.update_of_ne h] using hm

/-! ### Runs -/

theorem Step.later (h : Step rules act s s') : Later rules s s' := by
  refine ⟨fun a ha => h.authority_of_some ha, h.members, fun founded => ?_⟩
  cases h with
  | found _ nobody =>
      rw [nobody] at founded
      cases founded
  | advance _ _ => exact ⟨1, rfl⟩
  | _ => exact ⟨0, rfl⟩

/-- **What is kept by a run.** -/
theorem Later.of_moves (h : ReflTransGen (Moves rules allowed) s s') : Later rules s s' := by
  induction h with
  | refl => exact .refl s
  | tail _ move ih =>
      obtain ⟨act, -, step⟩ := move
      exact ih.trans step.later

theorem Sound.of_moves (hs : Sound rules s) (h : ReflTransGen (Moves rules allowed) s s') : Sound rules s' := by
  induction h with
  | refl => exact hs
  | tail _ move ih =>
      obtain ⟨act, -, step⟩ := move
      exact step.sound ih

/-- A record that no step of a run may strike off is there at its end. -/
theorem roster_of_moves {n : N} (kept : ¬ allowed (.strike n)) (hn : (s.roster n).isSome)
    (h : ReflTransGen (Moves rules allowed) s s') : (s'.roster n).isSome := by
  induction h with
  | refl => exact hn
  | tail _ move ih =>
      obtain ⟨act, hact, step⟩ := move
      exact step.roster_isSome ih fun h => kept (h ▸ hact)

end Steps

end MatterTimeCtl.Roster
