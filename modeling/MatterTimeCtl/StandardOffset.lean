/-
# MatterTimeCtl.StandardOffset — when no DST offset is negative.

The standard offset is the lower one of two probes in the year of the present instant, while the DST list
describes the zone from that instant on, for as many changes of the offset as it has room for.  A zone may
be lower than both probes in between, or in a later year, and `no_negative_dst_iff` says that this is
the only way to a negative DST offset.
-/
import MatterTimeCtl.TzRefine

namespace MatterTimeCtl

open Schedule StepFunction

/-! ## The probes and what is to come -/

/-- Some period the list describes, the present one or one after a change, has an offset below both the
mid-January and the mid-July offset of the present year. -/
def UnprobedLow (tz : TimeZone) (capacity : Nat) (from_ : Timestamp) : Prop :=
  ∃ p ∈ tz.steps.pieces (max capacity 1) from_, ∀ month, p.value < tz.toOffset (midMonth from_ month)

/-- The list gives an offset for the instant. -/
def Described (tz : TimeZone) (capacity : Nat) (from_ t : Timestamp) : Prop :=
  ∃ e ∈ buildDstOffsetList tz capacity from_, e.Covers (.fromTimestamp t)

/-- The standard offset is the lowest one: no instant from the present on that the list describes has a lower
one, and no DST offset is negative. -/
structure DstRaises (tz : TimeZone) (capacity : Nat) (from_ : Timestamp) : Prop where
  standard_le : ∀ t, from_ ≤ t → Described tz capacity from_ t →
    standardOffsetSeconds tz from_ ≤ tz.toOffset t
  dst_nonneg : ∀ e ∈ buildDstOffsetList tz capacity from_, 0 ≤ e.offsetSeconds

section Standard

variable {tz : TimeZone} {capacity : Nat} {from_ : Timestamp}

theorem lt_standardOffsetSeconds_iff {offset : Int} : offset < standardOffsetSeconds tz from_ ↔
    ∀ month, offset < tz.toOffset (midMonth from_ month) := by
  rw [standardOffsetSeconds, lt_min_iff]
  constructor
  · rintro ⟨january, july⟩ (_ | _)
    · exact january
    · exact july
  · exact fun h => ⟨h .january, h .july⟩

/-- What the list describes from the present on lies in one of its periods. -/
theorem Described.covers {t : Timestamp} (ht : from_ ≤ t) (h : Described tz capacity from_ t) :
    ∃ p ∈ tz.steps.pieces (max capacity 1) from_, p.Covers t := by
  rcases covers_or_beyond (f := tz.steps) (max capacity 1) ht with covers | beyond
  · exact covers
  · obtain ⟨e, he, -, hbefore⟩ := h
    obtain ⟨i, hi⟩ := List.getElem?_of_mem he
    obtain ⟨p, hp, rfl⟩ := piece_of_getElem? hi
    obtain ⟨s, hs, hle⟩ := beyond p (List.mem_of_getElem? hp)
    have hlt := hbefore (.fromTimestamp s) (by simp only [entryOf, hs, Option.map_some])
    have hmono := MatterMicros.fromTimestamp_mono hle
    omega

/-- The offsets of the list are those of the zone's periods over the standard offset. -/
theorem dst_nonneg_iff : (∀ e ∈ buildDstOffsetList tz capacity from_, 0 ≤ e.offsetSeconds) ↔
    ∀ p ∈ tz.steps.pieces (max capacity 1) from_, standardOffsetSeconds tz from_ ≤ p.value := by
  constructor
  · intro h p hp
    obtain ⟨i, hi⟩ := List.getElem?_of_mem hp
    have hlist := getElem?_startingAt (standardOffsetSeconds tz from_)
      (tz.steps.pieces (max capacity 1) from_) i
    rw [← buildDstOffsetList_eq, hi] at hlist
    have hoffset := h _ (List.mem_of_getElem? hlist)
    simp only [entryOf] at hoffset
    omega
  · intro h e he
    obtain ⟨i, hi⟩ := List.getElem?_of_mem he
    obtain ⟨p, hp, rfl⟩ := piece_of_getElem? hi
    have hoffset := h p (List.mem_of_getElem? hp)
    simp only [entryOf]
    omega

/-- The list begins with the present offset. -/
theorem exists_present_entry (tz : TimeZone) (capacity : Nat) (from_ : Timestamp) :
    ∃ e ∈ buildDstOffsetList tz capacity from_,
      e.offsetSeconds = tz.toOffset from_ - standardOffsetSeconds tz from_ := by
  obtain ⟨slots, hslots⟩ : ∃ slots, max capacity 1 = slots + 1 := ⟨max capacity 1 - 1, by omega⟩
  unfold buildDstOffsetList
  dsimp only
  rw [hslots, dstOffsetLoop]
  split
  · exact ⟨_, List.mem_cons_self .., rfl⟩
  · exact ⟨_, List.mem_cons_self .., rfl⟩

theorem not_unprobedLow_iff : ¬ UnprobedLow tz capacity from_ ↔
    ∀ p ∈ tz.steps.pieces (max capacity 1) from_, standardOffsetSeconds tz from_ ≤ p.value := by
  unfold UnprobedLow
  simp only [← lt_standardOffsetSeconds_iff, not_exists, not_and, not_lt]

/-- **DST never lowers the offset** exactly where no period to come is below both probes. -/
theorem no_negative_dst_iff (tz : TimeZone) (capacity : Nat) (from_ : Timestamp) :
    DstRaises tz capacity from_ ↔ ¬ UnprobedLow tz capacity from_ := by
  rw [not_unprobedLow_iff]
  constructor
  · intro h
    exact dst_nonneg_iff.mp h.dst_nonneg
  · intro h
    refine ⟨fun t ht described => ?_, dst_nonneg_iff.mpr h⟩
    obtain ⟨p, hp, covers⟩ := described.covers ht
    have hvalue : tz.toOffset t = p.value := (isSteady_of_mem_pieces hp).value_eq t covers
    rw [hvalue]
    exact h p hp

end Standard

/-! ## A zone that is lower for a month -/

/-- Africa/Casablanca in 2026: an hour ahead of UTC, but for the month of Ramadan. -/
def casablanca : TimeZone := .ofTable 3600 [(1771120800, 0), (1774144800, 3600)]

/-- 2026-03-01T12:00:00Z, in that month. -/
def ramadan : Timestamp := ⟨1772366400 * 1000000000, by decide, by decide⟩

/-- The low month lies between the probes, and its DST offset is minus one hour. -/
theorem ramadan_dst_negative : (∃ e ∈ buildDstOffsetList casablanca 1 ramadan, e.offsetSeconds = -3600) ∧
    ¬ DstRaises casablanca 1 ramadan := by
  obtain ⟨e, he, hoffset⟩ := exists_present_entry casablanca 1 ramadan
  have present : casablanca.toOffset ramadan = 0 := by decide +kernel
  have standard : standardOffsetSeconds casablanca ramadan = 3600 := by decide +kernel
  rw [present, standard] at hoffset
  refine ⟨⟨e, he, hoffset⟩, fun h => ?_⟩
  have hnonneg := h.dst_nonneg e he
  omega

end MatterTimeCtl
