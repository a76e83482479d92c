/-
# MatterTimeCtl.TzRefine — the zone and DST lists together reproduce the zone.

The loop of `buildDstOffsetList` computes the zone's pieces from the starting instant on: the entry
of a piece carries the piece's offset over the standard offset, starts at the piece's start (at 0 for
the first one) and ends at its stop (`buildDstOffsetList_eq`).  Matter time at or after the Matter
epoch orders instants the way the zone's whole-second transitions do (`lt_fromTimestamp_iff`), so an
entry covers exactly the instants its piece covers, and the tiling of the pieces becomes the tiling of
the entries.
-/
import MatterTimeCtl.Tz

namespace MatterTimeCtl

open Schedule StepFunction

/-! ## Matter time and whole seconds -/

/-- The instant is at or after 2000-01-01T00:00:00Z. -/
def Timestamp.SinceMatterEpoch (t : Timestamp) : Prop :=
  matterEpochUnixSeconds * 1000000000 ≤ t.nanos

theorem noon_sinceMatterEpoch : noon.SinceMatterEpoch := by
  unfold Timestamp.SinceMatterEpoch
  decide

theorem fromTimestamp_of_sinceEpoch {t : Timestamp} (h : t.SinceMatterEpoch) :
    ((MatterMicros.fromTimestamp t).micros : Int) = t.nanos / 1000 - matterEpochUnixMicros := by
  unfold Timestamp.SinceMatterEpoch matterEpochUnixSeconds at h
  rw [MatterMicros.fromTimestamp_micros, Timestamp.asMicrosecond_of_nonneg (by omega)]
  unfold matterEpochUnixMicros matterEpochUnixSeconds
  omega

/-- Truncation to microseconds does not move an instant across a whole second. -/
theorem fromTimestamp_lt_iff {s t : Timestamp} (hs : s.SinceMatterEpoch)
    (hwhole : s.nanos % 1000000000 = 0) :
    (MatterMicros.fromTimestamp t).micros < (MatterMicros.fromTimestamp s).micros ↔
      t < s ∧ matterEpochUnixSeconds * 1000000000 < s.nanos := by
  have hms := fromTimestamp_of_sinceEpoch hs
  have hmt := MatterMicros.fromTimestamp_micros t
  unfold Timestamp.SinceMatterEpoch at hs
  rw [Timestamp.lt_def]
  unfold matterEpochUnixMicros matterEpochUnixSeconds at *
  rcases lt_or_ge t.nanos 0 with hneg | hpos
  · have h := Timestamp.asMicrosecond_of_neg hneg
    omega
  · rw [Timestamp.asMicrosecond_of_nonneg hpos] at hmt
    omega

/-- Among instants from `from_` on, Matter time sees which come before a transition. -/
theorem fromTimestamp_lt_iff_of_gt {s t from_ : Timestamp} (hfrom : from_.SinceMatterEpoch)
    (hwhole : s.nanos % 1000000000 = 0) (hs : from_ < s) :
    (MatterMicros.fromTimestamp t).micros < (MatterMicros.fromTimestamp s).micros ↔ t < s := by
  have hlt : from_.nanos < s.nanos := hs
  have hepoch : s.SinceMatterEpoch := by
    unfold Timestamp.SinceMatterEpoch at *
    omega
  rw [fromTimestamp_lt_iff hepoch hwhole]
  unfold Timestamp.SinceMatterEpoch at hfrom
  exact and_iff_left (by omega)

/-! ## The loop computes the pieces -/

/-- The DST entry of a piece of the zone. -/
def entryOf (standard : Int) (p : Piece Timestamp Int) : MatterDstOffsetEntry :=
  ⟨p.value - standard, .fromTimestamp p.start, p.stop.map .fromTimestamp⟩

/-- The first entry starts at `start`, whatever its piece does. -/
def startingAt (start : MatterMicros) : List MatterDstOffsetEntry → List MatterDstOffsetEntry
  | [] => []
  | e :: es => { e with validStarting := start } :: es

theorem startingAt_entryOf (standard : Int) (tz : TimeZone) (n : Nat) (t : Timestamp) :
    startingAt (.fromTimestamp t) ((tz.steps.pieces n t).map (entryOf standard)) =
      (tz.steps.pieces n t).map (entryOf standard) := by
  cases n with
  | zero => rfl
  | succ n =>
      unfold pieces
      split <;> rfl

theorem dstOffsetLoop_eq (tz : TimeZone) (standard : Int) (n : Nat) (start : MatterMicros)
    (t : Timestamp) :
    dstOffsetLoop tz standard n (tz.toOffset t) start t =
      startingAt start ((tz.steps.pieces n t).map (entryOf standard)) := by
  induction n generalizing start t with
  | zero => rfl
  | succ n ih =>
      unfold dstOffsetLoop TimeZone.findTransition pieces
      cases hs : tz.steps.nextChange (tz.steps.value t) t with
      | none =>
          have hs' : tz.steps.nextChange (tz.toOffset t) t = none := hs
          simp only [hs', Option.map_none]
          rfl
      | some s =>
          have hs' : tz.steps.nextChange (tz.toOffset t) t = some s := hs
          simp only [hs', Option.map_some, ih, startingAt_entryOf]
          rfl

/-- The list is the zone's pieces from `from_` on, the first one made to start at 0. -/
theorem buildDstOffsetList_eq (tz : TimeZone) (maxEntries : Nat) (from_ : Timestamp) :
    buildDstOffsetList tz maxEntries from_ = startingAt .zero
      ((tz.steps.pieces (max maxEntries 1) from_).map
        (entryOf (standardOffsetSeconds tz from_))) :=
  dstOffsetLoop_eq tz _ _ _ _

/-! ## Entries and instants -/

/-- The entry is the one in force at Matter time `m`. -/
def MatterDstOffsetEntry.Covers (e : MatterDstOffsetEntry) (m : MatterMicros) : Prop :=
  e.validStarting.micros ≤ m.micros ∧ ∀ u, e.validUntil = some u → m.micros < u.micros

/-- After some instant the zone does not change its offset any more: it is the same at any two instants
from `from_` on that Matter time places at or after `start`. -/
def NoFurtherChange (tz : TimeZone) (from_ : Timestamp) (start : MatterMicros) : Prop :=
  ∀ t u, from_ ≤ t → from_ ≤ u → start.micros ≤ (MatterMicros.fromTimestamp t).micros →
    start.micros ≤ (MatterMicros.fromTimestamp u).micros → tz.toOffset t = tz.toOffset u

section Entries

variable {tz : TimeZone} {n : Nat} {from_ : Timestamp} {standard : Int}

/-- Piece number `i` and entry number `i` of the list. -/
theorem getElem?_startingAt (standard : Int) (l : List (Piece Timestamp Int)) (i : Nat) :
    (startingAt .zero (l.map (entryOf standard)))[i]? =
      l[i]?.map fun p => { entryOf standard p with
        validStarting := if i = 0 then .zero else .fromTimestamp p.start } := by
  cases l with
  | nil => rfl
  | cons p ps =>
      cases i with
      | zero => rfl
      | succ i =>
          simp only [List.map_cons, startingAt, List.getElem?_cons_succ, List.getElem?_map,
            Nat.succ_ne_zero, if_false]
          rfl

/-- A change is one of the zone's transitions. -/
theorem nextChange_whole {v : Int} {t s : Timestamp} (h : tz.steps.nextChange v t = some s) :
    s.nanos % 1000000000 = 0 := by
  fun_induction nextChange tz.steps v t with
  | case1 t hn => simp at h
  | case2 t r hn hne =>
      obtain rfl := Option.some.inj h
      exact tz.whole_seconds hn
  | case3 t r hn heq ih => exact ih h

theorem stop_of_mem_pieces {t s : Timestamp} {p : Piece Timestamp Int}
    (h : p ∈ tz.steps.pieces n t) (hs : p.stop = some s) : t < s ∧ s.nanos % 1000000000 = 0 := by
  refine ⟨lt_of_le_of_lt (le_start_of_mem_pieces h) ((isSteady_of_mem_pieces h).lt_stop s hs), ?_⟩
  induction n generalizing t with
  | zero => simp [pieces] at h
  | succ n ih =>
      unfold pieces at h
      split at h
      · rw [List.mem_singleton] at h
        subst h
        simp at hs
      · rename_i r hr
        rcases List.mem_cons.mp h with rfl | h
        · obtain rfl := Option.some.inj hs
          exact nextChange_whole hr
        · exact ih h

/-- Every piece but the first starts at a transition after `t`. -/
theorem start_of_getElem?_pieces {t : Timestamp} {i : Nat} {p : Piece Timestamp Int}
    (h : (tz.steps.pieces n t)[i]? = some p) :
    if i = 0 then p.start = t else t < p.start ∧ p.start.nanos % 1000000000 = 0 := by
  cases i with
  | zero =>
      rw [if_pos rfl]
      cases n with
      | zero => simp [pieces] at h
      | succ n =>
          have hhead := head?_pieces_succ (f := tz.steps) n t
          rw [List.head?_eq_getElem?, h] at hhead
          exact Option.some.inj hhead
  | succ i =>
      rw [if_neg (Nat.succ_ne_zero i)]
      obtain ⟨hi, hp⟩ := List.getElem?_eq_some_iff.mp h
      have hmeets := (List.isChain_iff_getElem.mp (isChain_pieces (f := tz.steps) n t)) i hi
      rw [hp] at hmeets
      exact stop_of_mem_pieces (List.getElem_mem _) hmeets.1

/-- From `from_` on, an entry is in force exactly on its piece. -/
theorem covers_iff (hfrom : from_.SinceMatterEpoch) {i : Nat} {p : Piece Timestamp Int}
    (h : (tz.steps.pieces n from_)[i]? = some p) {t : Timestamp} (ht : from_ ≤ t) :
    MatterDstOffsetEntry.Covers { entryOf standard p with
        validStarting := if i = 0 then .zero else .fromTimestamp p.start } (.fromTimestamp t) ↔
      p.Covers t := by
  have hmem := List.mem_of_getElem? h
  have hstart := start_of_getElem?_pieces h
  unfold MatterDstOffsetEntry.Covers Piece.Covers
  refine and_congr ?_ ?_
  · split at hstart
    · rename_i hi
      simp only [hi, if_true, MatterMicros.zero, Nat.zero_le, hstart, ht]
    · rename_i hi
      simp only [hi, if_false]
      rw [← not_lt, fromTimestamp_lt_iff_of_gt hfrom hstart.2 hstart.1, not_lt]
  · simp only [entryOf, Option.map_eq_some_iff, forall_exists_index, and_imp,
      forall_apply_eq_imp_iff₂]
    refine forall₂_congr fun s hs => ?_
    obtain ⟨hlt, hwhole⟩ := stop_of_mem_pieces hmem hs
    exact fromTimestamp_lt_iff_of_gt hfrom hwhole hlt

/-- Every entry of the list is that of the zone's piece of the same number. -/
theorem piece_of_getElem? {maxEntries i : Nat} {e : MatterDstOffsetEntry}
    (h : (buildDstOffsetList tz maxEntries from_)[i]? = some e) :
    ∃ p, (tz.steps.pieces (max maxEntries 1) from_)[i]? = some p ∧
      e = { entryOf (standardOffsetSeconds tz from_) p with
        validStarting := if i = 0 then .zero else .fromTimestamp p.start } := by
  rw [buildDstOffsetList_eq, getElem?_startingAt, Option.map_eq_some_iff] at h
  obtain ⟨p, hp, rfl⟩ := h
  exact ⟨p, hp, rfl⟩

theorem length_buildDstOffsetList (tz : TimeZone) (maxEntries : Nat) (from_ : Timestamp) :
    (buildDstOffsetList tz maxEntries from_).length =
      (tz.steps.pieces (max maxEntries 1) from_).length := by
  rw [buildDstOffsetList_eq]
  cases tz.steps.pieces (max maxEntries 1) from_ <;> simp [startingAt]

theorem buildDstOffsetList_ne_nil (tz : TimeZone) (maxEntries : Nat) (from_ : Timestamp) :
    buildDstOffsetList tz maxEntries from_ ≠ [] := by
  have hlen := length_buildDstOffsetList tz maxEntries from_
  have hne : tz.steps.pieces (max maxEntries 1) from_ ≠ [] := by
    obtain ⟨k, hk⟩ : ∃ k, max maxEntries 1 = k + 1 := ⟨max maxEntries 1 - 1, by omega⟩
    rw [hk]
    exact pieces_succ_ne_nil k from_
  rw [← List.length_pos_iff] at hne ⊢
  omega

end Entries

/-! ## The two lists together -/

/-- What a DST list built from `from_` is to the zone, together with the zone list. -/
structure ReproducesZone (tz : TimeZone) (name : String) (maxEntries : Nat) (from_ : Timestamp)
    (list : List MatterDstOffsetEntry) : Prop where
  nonempty : list ≠ []
  length_le : list.length ≤ max maxEntries 1
  starts_at_zero : ∀ e, list[0]? = some e → e.validStarting = .zero
  contiguous : ∀ i e e', list[i]? = some e → list[i + 1]? = some e' →
    e.validUntil = some e'.validStarting
  increasing : ∀ e ∈ list, ∀ u, e.validUntil = some u → e.validStarting.micros < u.micros
  changes : ∀ i e e', list[i]? = some e → list[i + 1]? = some e' →
    e.offsetSeconds ≠ e'.offsetSeconds
  open_is_last : ∀ i e, list[i]? = some e → e.validUntil = none → i + 1 = list.length
  open_iff : ∀ e, list.getLast? = some e →
    (e.validUntil = none ↔ NoFurtherChange tz from_ e.validStarting)
  reproduces : ∀ t, from_ ≤ t → (∃ e ∈ list, e.Covers (.fromTimestamp t)) →
    ∃ e ∈ list, e.Covers (.fromTimestamp t) ∧
      (∀ e' ∈ list, e'.Covers (.fromTimestamp t) → e' = e) ∧
      ∃ z, buildTimeZoneList tz name from_ = [z] ∧
        z.offsetSeconds + e.offsetSeconds = tz.toOffset t

section Main

variable {tz : TimeZone} {maxEntries : Nat} {from_ : Timestamp}

theorem entry_increasing (hfrom : from_.SinceMatterEpoch) {i : Nat} {e : MatterDstOffsetEntry}
    (h : (buildDstOffsetList tz maxEntries from_)[i]? = some e) {u : MatterMicros}
    (hu : e.validUntil = some u) : e.validStarting.micros < u.micros := by
  obtain ⟨p, hp, rfl⟩ := piece_of_getElem? h
  have hmem := List.mem_of_getElem? hp
  obtain ⟨s, hs, rfl⟩ := Option.map_eq_some_iff.mp hu
  obtain ⟨hlt, hwhole⟩ := stop_of_mem_pieces hmem hs
  have hafter := fun t => fromTimestamp_lt_iff_of_gt (t := t) hfrom hwhole hlt
  by_cases hi : i = 0
  · simp only [hi, if_true, MatterMicros.zero]
    have := (hafter from_).mpr hlt
    omega
  · simp only [hi, if_false]
    exact (hafter p.start).mpr ((isSteady_of_mem_pieces hmem).lt_stop s hs)

/-- Two entries in force at one instant are the same entry. -/
theorem entry_unique (hfrom : from_.SinceMatterEpoch) {t : Timestamp} (ht : from_ ≤ t) {i j : Nat}
    {e e' : MatterDstOffsetEntry} (h : (buildDstOffsetList tz maxEntries from_)[i]? = some e)
    (h' : (buildDstOffsetList tz maxEntries from_)[j]? = some e')
    (hc : e.Covers (.fromTimestamp t)) (hc' : e'.Covers (.fromTimestamp t)) : i = j := by
  obtain ⟨p, hp, rfl⟩ := piece_of_getElem? h
  obtain ⟨q, hq, rfl⟩ := piece_of_getElem? h'
  have hpt := (covers_iff hfrom hp ht).mp hc
  have hqt := (covers_iff hfrom hq ht).mp hc'
  obtain ⟨hi, hpi⟩ := List.getElem?_eq_some_iff.mp hp
  obtain ⟨hj, hqj⟩ := List.getElem?_eq_some_iff.mp hq
  have hpw := List.pairwise_iff_getElem.mp (pairwise_pieces (f := tz.steps) (max maxEntries 1) from_)
  -- the later of two pieces starts at or after the stop of the earlier one
  rcases Nat.lt_trichotomy i j with hij | hij | hij
  · obtain ⟨s, hs, hle⟩ := hpw i j hi hj hij
    rw [hpi] at hs
    rw [hqj] at hle
    exact absurd (hle.trans hqt.1) (not_le.mpr (hpt.2 s hs))
  · exact hij
  · obtain ⟨s, hs, hle⟩ := hpw j i hj hi hij
    rw [hqj] at hs
    rw [hpi] at hle
    exact absurd (hle.trans hpt.1) (not_le.mpr (hqt.2 s hs))

theorem entry_open_iff (hfrom : from_.SinceMatterEpoch) {i : Nat} {e : MatterDstOffsetEntry}
    (h : (buildDstOffsetList tz maxEntries from_)[i]? = some e) :
    e.validUntil = none ↔ NoFurtherChange tz from_ e.validStarting := by
  obtain ⟨p, hp, rfl⟩ := piece_of_getElem? h
  have hmem := List.mem_of_getElem? hp
  have hsteady := isSteady_of_mem_pieces hmem
  constructor
  · intro hopen t u ht hu hst hsu
    have hall : ∀ v, from_ ≤ v → (if i = 0 then MatterMicros.zero else .fromTimestamp p.start).micros ≤
        (MatterMicros.fromTimestamp v).micros → tz.toOffset v = p.value := fun v hv hsv =>
      hsteady.value_eq v ((covers_iff hfrom hp hv).mp
        ⟨hsv, fun u hu => absurd (hopen.symm.trans hu) (by simp)⟩)
    rw [hall t ht hst, hall u hu hsu]
  · intro hno
    by_contra hclosed
    obtain ⟨u, hu⟩ := Option.ne_none_iff_exists'.mp hclosed
    obtain ⟨s, hs, rfl⟩ := Option.map_eq_some_iff.mp hu
    have hlt := hsteady.lt_stop s hs
    have hmono := entry_increasing hfrom h hu
    -- the start of the piece and its stop tell the offsets apart
    have hsame := hno p.start s (le_start_of_mem_pieces hmem)
      ((le_start_of_mem_pieces hmem).trans hlt.le) ?_ hmono.le
    · have hstart : tz.toOffset p.start = p.value := hsteady.value_eq p.start
        ⟨le_rfl, fun r hr => hsteady.lt_stop r hr⟩
      exact hsteady.changes s hs (hsame.symm.trans hstart)
    · by_cases hi : i = 0 <;> simp [hi, MatterMicros.zero]

/-- **The zone and DST lists reproduce the zone.**  From any instant since the Matter epoch and for any
capacity, the DST list is a non-empty tiling of a stretch of Matter time from 0 on whose entries
change the offset at every inner boundary, open-ended exactly when the zone never changes again, and
wherever it has an entry for an instant from `from_` on, standard offset plus entry offset is the zone's
offset. -/
theorem build_lists_reproduce_zone (tz : TimeZone) (name : String) (maxEntries : Nat)
    (from_ : Timestamp) (hfrom : from_.SinceMatterEpoch) :
    ReproducesZone tz name maxEntries from_ (buildDstOffsetList tz maxEntries from_) where
  nonempty := buildDstOffsetList_ne_nil tz maxEntries from_
  length_le := by
    rw [length_buildDstOffsetList]
    exact length_pieces _ _
  starts_at_zero e he := by
    obtain ⟨p, -, rfl⟩ := piece_of_getElem? he
    rfl
  contiguous i e e' he he' := by
    -- the entries are the pieces of the zone, and neighbouring pieces meet
    obtain ⟨p, hp, rfl⟩ := piece_of_getElem? he
    obtain ⟨q, hq, rfl⟩ := piece_of_getElem? he'
    obtain ⟨hi, hqi⟩ := List.getElem?_eq_some_iff.mp hq
    have hmeets := List.isChain_iff_getElem.mp (isChain_pieces (f := tz.steps) _ from_) i hi
    rw [hqi, (List.getElem?_eq_some_iff.mp hp).2] at hmeets
    simp only [entryOf, hmeets.1, Option.map_some, Nat.succ_ne_zero, if_false]
  increasing e he u hu := by
    obtain ⟨i, hi⟩ := List.getElem?_of_mem he
    exact entry_increasing hfrom hi hu
  changes i e e' he he' := by
    obtain ⟨p, hp, rfl⟩ := piece_of_getElem? he
    obtain ⟨q, hq, rfl⟩ := piece_of_getElem? he'
    obtain ⟨hi, hqi⟩ := List.getElem?_eq_some_iff.mp hq
    have hmeets := List.isChain_iff_getElem.mp (isChain_pieces (f := tz.steps) _ from_) i hi
    rw [hqi, (List.getElem?_eq_some_iff.mp hp).2] at hmeets
    have hne := hmeets.2
    simp only [entryOf]
    omega
  open_is_last i e he hopen := by
    obtain ⟨p, hp, rfl⟩ := piece_of_getElem? he
    rw [length_buildDstOffsetList]
    exact stop_none_is_last hp (by simpa [entryOf] using hopen)
  open_iff e he := by
    rw [List.getLast?_eq_getElem?] at he
    exact entry_open_iff hfrom he
  reproduces t ht hcov := by
    -- an entry that covers the instant is the only one, and its piece is steady
    obtain ⟨e, he, hc⟩ := hcov
    obtain ⟨i, hi⟩ := List.getElem?_of_mem he
    refine ⟨e, he, hc, ?_, ⟨_, rfl, ?_⟩⟩
    · intro e' he' hc'
      obtain ⟨j, hj⟩ := List.getElem?_of_mem he'
      have hij := entry_unique hfrom ht hi hj hc hc'
      rw [hij, hj] at hi
      exact Option.some.inj hi
    · obtain ⟨p, hp, rfl⟩ := piece_of_getElem? hi
      have hval := (isSteady_of_mem_pieces (List.mem_of_getElem? hp)).value_eq t
        ((covers_iff hfrom hp ht).mp hc)
      simp only [entryOf, TimeZone.toOffset, hval]
      omega

theorem chicago_lists_reproduce_zone : ReproducesZone chicago "America/Chicago" 4 noon
    (buildDstOffsetList chicago 4 noon) :=
  build_lists_reproduce_zone chicago "America/Chicago" 4 noon noon_sinceMatterEpoch

end Main

end MatterTimeCtl
