/-
# MatterTimeCtl.NextTransition — the next change of the offset, and what is sent for it.

`nextOffsetTransition` answers the status command and `buildDstOffsetList` makes the list a device is given.
They are written separately over the same transitions: one looks for the first that leaves the offset in
force, the other carries the offset along in a loop.  Both find the zone's next change
(`StepFunction.nextChange`), so what is reported as the next change is exact, and is the end of the first
entry sent.
-/
import MatterTimeCtl.Conversion

namespace MatterTimeCtl

open Schedule StepFunction

variable {tz : TimeZone} {from_ at_ : Timestamp} {before after : Int}

/-! ## The search finds the zone's next change -/

theorem nextOffsetTransition_eq (tz : TimeZone) (from_ : Timestamp) :
    nextOffsetTransition tz from_ = (tz.steps.nextChange (tz.steps.value from_) from_).map
      fun at_ => (at_, tz.toOffset from_, tz.toOffset at_) := by
  unfold nextOffsetTransition TimeZone.findTransition
  dsimp only
  rw [Option.map_map]
  rfl

theorem nextOffsetTransition_eq_some (h : nextOffsetTransition tz from_ = some (at_, before, after)) :
    tz.steps.nextChange (tz.steps.value from_) from_ = some at_ ∧
      tz.toOffset from_ = before ∧ tz.toOffset at_ = after := by
  rw [nextOffsetTransition_eq, Option.map_eq_some_iff] at h
  obtain ⟨s, hs, heq⟩ := h
  simp only [Prod.mk.injEq] at heq
  obtain ⟨rfl, hbefore, hafter⟩ := heq
  exact ⟨hs, hbefore, hafter⟩

theorem nextOffsetTransition_eq_none_iff :
    nextOffsetTransition tz from_ = none ↔ tz.steps.nextChange (tz.steps.value from_) from_ = none := by
  rw [nextOffsetTransition_eq, Option.map_eq_none_iff]

/-- What is reported as the next change of the offset. -/
structure IsNextChange (tz : TimeZone) (from_ at_ : Timestamp) (before after : Int) : Prop where
  later : from_ < at_
  steady : ∀ t, from_ ≤ t → t < at_ → tz.toOffset t = before
  changed : tz.toOffset at_ = after
  differs : before ≠ after

theorem isNextChange_of_nextOffsetTransition
    (h : nextOffsetTransition tz from_ = some (at_, before, after)) :
    IsNextChange tz from_ at_ before after := by
  obtain ⟨hs, rfl, rfl⟩ := nextOffsetTransition_eq_some h
  obtain ⟨hlater, hdiffers, hsteady⟩ := nextChange_some hs
  exact ⟨hlater, hsteady, rfl, hdiffers.symm⟩

/-- There is at most one next change, so the search is complete as well. -/
theorem IsNextChange.nextOffsetTransition_eq (h : IsNextChange tz from_ at_ before after) :
    nextOffsetTransition tz from_ = some (at_, before, after) := by
  cases hfound : nextOffsetTransition tz from_ with
  | none =>
      have hnever := nextChange_none (nextOffsetTransition_eq_none_iff.mp hfound) at_ h.later.le
      refine absurd ?_ h.differs
      rw [← h.steady from_ le_rfl h.later, ← h.changed]
      exact hnever.symm
  | some found =>
      obtain ⟨s, b, a⟩ := found
      have hs := isNextChange_of_nextOffsetTransition hfound
      have hb : b = before := by
        rw [← hs.steady from_ le_rfl hs.later, ← h.steady from_ le_rfl h.later]
      -- neither change can lie before the other
      have hat : s = at_ := by
        rcases lt_trichotomy s at_ with hlt | heq | hgt
        · refine absurd ?_ hs.differs
          rw [hb, ← hs.changed]
          exact (h.steady s hs.later.le hlt).symm
        · exact heq
        · refine absurd ?_ h.differs
          rw [← hb, ← h.changed]
          exact (hs.steady at_ h.later.le hgt).symm
      subst hat
      rw [hb, ← hs.changed, ← h.changed]

theorem nextOffsetTransition_eq_none_iff_steady :
    nextOffsetTransition tz from_ = none ↔ ∀ t, from_ ≤ t → tz.toOffset t = tz.toOffset from_ := by
  constructor
  · intro hnone
    exact nextChange_none (nextOffsetTransition_eq_none_iff.mp hnone)
  · intro hsteady
    cases hfound : nextOffsetTransition tz from_ with
    | none => rfl
    | some found =>
        obtain ⟨s, b, a⟩ := found
        have hs := isNextChange_of_nextOffsetTransition hfound
        refine absurd ?_ hs.differs
        rw [← hs.changed, hsteady s hs.later.le, hs.steady from_ le_rfl hs.later]

/-! ## The first entry of the list -/

/-- The list begins with the zone's first piece. -/
theorem buildDstOffsetList_of_some (maxEntries : Nat)
    (h : tz.steps.nextChange (tz.steps.value from_) from_ = some at_) :
    ∃ first rest, buildDstOffsetList tz maxEntries from_ = first :: rest ∧
      first.validUntil = some (.fromTimestamp at_) := by
  obtain ⟨slots, hslots⟩ : ∃ slots, max maxEntries 1 = slots + 1 := ⟨max maxEntries 1 - 1, by omega⟩
  rw [buildDstOffsetList_eq, hslots, pieces, h]
  exact ⟨_, _, rfl, rfl⟩

theorem buildDstOffsetList_of_none (maxEntries : Nat)
    (h : tz.steps.nextChange (tz.steps.value from_) from_ = none) :
    ∃ only, buildDstOffsetList tz maxEntries from_ = [only] ∧ only.validUntil = none := by
  obtain ⟨slots, hslots⟩ : ∃ slots, max maxEntries 1 = slots + 1 := ⟨max maxEntries 1 - 1, by omega⟩
  rw [buildDstOffsetList_eq, hslots, pieces, h]
  exact ⟨_, rfl, rfl⟩

/-- The end of the first entry is the next change, to the nanosecond: transitions fall on whole seconds. -/
theorem toTimestamp_nextChange (ext : Externals) (hfrom : from_.SinceMatterEpoch) {v : Int}
    (h : tz.steps.nextChange v from_ = some at_) (hlater : from_ < at_) :
    (MatterMicros.fromTimestamp at_).toTimestamp ext.fromMicrosecond = some at_ := by
  have hwhole := nextChange_whole h
  have hlt : from_.nanos < at_.nanos := hlater
  unfold Timestamp.SinceMatterEpoch at hfrom
  have hsince : at_.SinceMatterEpoch := by
    unfold Timestamp.SinceMatterEpoch
    omega
  have hpos : 0 ≤ at_.nanos := by
    unfold matterEpochUnixSeconds at hfrom
    omega
  have hlast : at_.asMicrosecond ≤ maxMicros := by
    have hmax := at_.le_max
    rw [Timestamp.asMicrosecond_of_nonneg hpos]
    unfold maxNanos at hmax
    unfold maxMicros
    omega
  rw [(MatterMicros.toTimestamp_fromTimestamp_iff hsince).mpr hlast]
  congr 1
  apply Timestamp.ext
  show at_.asMicrosecond * 1000 = at_.nanos
  rw [Timestamp.asMicrosecond_of_nonneg hpos]
  omega

/-- **The next change is exact, and is what is sent.**  What the search reports is the zone's next change of
offset, it reports nothing only when the offset never changes again, and for an instant since the Matter
epoch the list for any capacity begins with an entry valid until that change, or is one open-ended entry
when there is none. -/
theorem nextOffsetTransition_exact (ext : Externals) (tz : TimeZone) (from_ : Timestamp) (maxEntries : Nat) :
    (∀ at_ before after, nextOffsetTransition tz from_ = some (at_, before, after) ↔
      IsNextChange tz from_ at_ before after) ∧
    (nextOffsetTransition tz from_ = none ↔ ∀ t, from_ ≤ t → tz.toOffset t = tz.toOffset from_) ∧
    (from_.SinceMatterEpoch →
      (∀ at_ before after, nextOffsetTransition tz from_ = some (at_, before, after) →
        (∃ first rest, buildDstOffsetList tz maxEntries from_ = first :: rest ∧
          first.validUntil = some (.fromTimestamp at_)) ∧
        (MatterMicros.fromTimestamp at_).toTimestamp ext.fromMicrosecond = some at_) ∧
      (nextOffsetTransition tz from_ = none ↔
        ∃ only, buildDstOffsetList tz maxEntries from_ = [only] ∧ only.validUntil = none)) := by
  refine ⟨fun at_ before after => ⟨isNextChange_of_nextOffsetTransition,
    fun h => h.nextOffsetTransition_eq⟩, nextOffsetTransition_eq_none_iff_steady, fun hfrom => ⟨?_, ?_⟩⟩
  · intro at_ before after h
    obtain ⟨hs, -, -⟩ := nextOffsetTransition_eq_some h
    exact ⟨buildDstOffsetList_of_some maxEntries hs,
      toTimestamp_nextChange ext hfrom hs (isNextChange_of_nextOffsetTransition h).later⟩
  · rw [nextOffsetTransition_eq_none_iff]
    constructor
    · intro hnone
      exact buildDstOffsetList_of_none maxEntries hnone
    · rintro ⟨only, hlist, hopen⟩
      by_contra hsome
      obtain ⟨s, hs⟩ := Option.ne_none_iff_exists'.mp hsome
      -- the first entry would end at the change
      obtain ⟨first, rest, hfirst, huntil⟩ := buildDstOffsetList_of_some maxEntries hs
      rw [hlist] at hfirst
      obtain ⟨rfl, -⟩ := List.cons.inj hfirst
      rw [hopen] at huntil
      cases huntil

end MatterTimeCtl
