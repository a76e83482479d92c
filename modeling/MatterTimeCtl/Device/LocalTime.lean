/-
# MatterTimeCtl.Device.LocalTime — the local time a device shows after `sync --time`.

`sync --time` turns a wall clock time into an instant by the zone's rules at that time, and gives the
device the zone's rules from the present on.  The device shows the instant through the lists it was
given: one that lies in the past is shown with the present offset, and one beyond the reach of the
lists with the standard offset.  `requested_time_shown_iff` says exactly when that is the time that was
asked for.
-/
import MatterTimeCtl.ManualTime
import MatterTimeCtl.Device.Clock

namespace MatterTimeCtl

open Files Effect Schedule StepFunction

/-! ## What the lists show -/

instance (e : MatterDstOffsetEntry) (m : MatterMicros) : Decidable (e.Covers m) :=
  decidable_of_iff (e.validStarting.micros ≤ m.micros ∧
      e.validUntil.all fun u => decide (m.micros < u.micros)) (by
    unfold MatterDstOffsetEntry.Covers
    rw [Option.all_eq_true]
    simp only [decide_eq_true_eq])

/-- The DST offset in force at Matter time `m`, 0 when no entry covers it. -/
def dstOffsetAt (entries : List MatterDstOffsetEntry) (m : MatterMicros) : Int :=
  ((entries.find? fun e => decide (e.Covers m)).map (·.offsetSeconds)).getD 0

/-- The offset of the latest zone entry that is valid at Matter time `m`. -/
def zoneOffsetAt (entries : List MatterTimeZoneEntry) (m : MatterMicros) : Int :=
  ((entries.filter fun e => e.validAt.micros ≤ m.micros).getLast?.map (·.offsetSeconds)).getD 0

/-- The instant lies before the zone's offset has changed for the last time the list can hold. -/
def WithinReach (tz : TimeZone) (capacity : Nat) (from_ t : Timestamp) : Prop :=
  ∃ p ∈ tz.steps.pieces (max capacity 1) from_, p.Covers t

section Shown

variable {tz : TimeZone} {capacity : Nat} {from_ t : Timestamp}

/-- What is past is shown with the offset of the present. -/
theorem dstOffsetAt_of_lt (hfrom : from_.SinceMatterEpoch) (ht : t < from_) :
    dstOffsetAt (buildDstOffsetList tz capacity from_) (.fromTimestamp t) =
      tz.toOffset from_ - standardOffsetSeconds tz from_ := by
  obtain ⟨k, hk⟩ : ∃ k, max capacity 1 = k + 1 := ⟨max capacity 1 - 1, by omega⟩
  obtain ⟨p, ps, hp⟩ := List.exists_cons_of_ne_nil (pieces_succ_ne_nil (f := tz.steps) k from_)
  have hmem : p ∈ tz.steps.pieces (k + 1) from_ := by simp [hp]
  have hstart : p.start = from_ := by
    have hhead := head?_pieces_succ (f := tz.steps) k from_
    rw [hp] at hhead
    exact Option.some.inj hhead
  have hvalue : p.value = tz.toOffset from_ := by
    refine ((isSteady_of_mem_pieces hmem).value_eq from_ ⟨hstart.le, fun s hs => ?_⟩).symm
    exact (stop_of_mem_pieces hmem hs).1
  -- the first entry starts at 0 and is in force until after the present
  have hcovers : MatterDstOffsetEntry.Covers
      { entryOf (standardOffsetSeconds tz from_) p with validStarting := .zero } (.fromTimestamp t) := by
    refine ⟨Nat.zero_le _, fun u hu => ?_⟩
    obtain ⟨s, hs, rfl⟩ := Option.map_eq_some_iff.mp hu
    obtain ⟨hlt, hwhole⟩ := stop_of_mem_pieces hmem hs
    exact (fromTimestamp_lt_iff_of_gt hfrom hwhole hlt).mpr (ht.trans hlt)
  rw [buildDstOffsetList_eq, hk, hp]
  unfold dstOffsetAt
  rw [List.map_cons, startingAt, List.find?_cons_of_pos (by simpa using hcovers)]
  simp only [entryOf, Option.map_some, Option.getD_some, hvalue]

/-- An entry is in force at an instant from the present on exactly when the instant is within reach. -/
theorem exists_covers_iff (hfrom : from_.SinceMatterEpoch) (ht : from_ ≤ t) :
    (∃ e ∈ buildDstOffsetList tz capacity from_, e.Covers (.fromTimestamp t)) ↔
      WithinReach tz capacity from_ t := by
  constructor
  · rintro ⟨e, he, hc⟩
    obtain ⟨i, hi⟩ := List.getElem?_of_mem he
    obtain ⟨p, hp, rfl⟩ := piece_of_getElem? hi
    exact ⟨p, List.mem_of_getElem? hp, (covers_iff hfrom hp ht).mp hc⟩
  · rintro ⟨p, hmem, hc⟩
    obtain ⟨i, hp⟩ := List.getElem?_of_mem hmem
    have hlist := getElem?_startingAt (standardOffsetSeconds tz from_)
      (tz.steps.pieces (max capacity 1) from_) i
    rw [← buildDstOffsetList_eq, hp] at hlist
    exact ⟨_, List.mem_of_getElem? hlist, (covers_iff hfrom hp ht).mpr hc⟩

/-- Within reach of the list, zone and DST offset make up the zone's offset. -/
theorem dstOffsetAt_of_reach (hfrom : from_.SinceMatterEpoch) (ht : from_ ≤ t)
    (reach : WithinReach tz capacity from_ t) :
    dstOffsetAt (buildDstOffsetList tz capacity from_) (.fromTimestamp t) =
      tz.toOffset t - standardOffsetSeconds tz from_ := by
  obtain ⟨e', he', hc'⟩ := (exists_covers_iff hfrom ht).mpr reach
  have hfound : ((buildDstOffsetList tz capacity from_).find? fun e =>
      decide (e.Covers (.fromTimestamp t))).isSome = true :=
    List.find?_isSome.mpr ⟨e', he', by simpa using hc'⟩
  obtain ⟨e, he⟩ := Option.isSome_iff_exists.mp hfound
  have hc : e.Covers (.fromTimestamp t) := by simpa using List.find?_some he
  obtain ⟨i, hi⟩ := List.getElem?_of_mem (List.mem_of_find?_eq_some he)
  obtain ⟨p, hp, rfl⟩ := piece_of_getElem? hi
  have hvalue := (isSteady_of_mem_pieces (List.mem_of_getElem? hp)).value_eq t
    ((covers_iff hfrom hp ht).mp hc)
  unfold dstOffsetAt
  rw [he]
  simp only [entryOf, Option.map_some, Option.getD_some, TimeZone.toOffset, hvalue]

/-- Beyond the reach of the list there is no DST offset. -/
theorem dstOffsetAt_of_beyond (hfrom : from_.SinceMatterEpoch) (ht : from_ ≤ t)
    (beyond : ¬ WithinReach tz capacity from_ t) :
    dstOffsetAt (buildDstOffsetList tz capacity from_) (.fromTimestamp t) = 0 := by
  have hnone : (buildDstOffsetList tz capacity from_).find? (fun e =>
      decide (e.Covers (.fromTimestamp t))) = none := by
    refine List.find?_eq_none.mpr fun e he hc => beyond ?_
    exact (exists_covers_iff hfrom ht).mp ⟨e, he, by simpa using hc⟩
  unfold dstOffsetAt
  rw [hnone]
  rfl

theorem zoneOffsetAt_build (name : String) (m : MatterMicros) :
    zoneOffsetAt (buildTimeZoneList tz name from_) m = standardOffsetSeconds tz from_ := by
  simp [zoneOffsetAt, buildTimeZoneList, MatterMicros.zero]

end Shown

/-! ## The device -/

/-- The local time a device shows for a UTC instant: microseconds since 1970-01-01T00:00 on its face. -/
def Peer.localTime (peer : Peer) (m : MatterMicros) : Int :=
  m.micros + matterEpochUnixMicros + (zoneOffsetAt peer.zone m + dstOffsetAt peer.dst m) * 1000000

/-- The size of the DST list a device reports. -/
def HasCapacity (nodeId : NodeId) (capacity : UInt8) : (c : Call) → World → Call.Move c → Prop
  | .wire n .dstOffsetListMaxSizeRead, _, m =>
    n = nodeId → ∀ size, m.choice.reply = .ok size → size = capacity
  | _, _, _ => True

/-- The environment with a device of this capacity. -/
abbrev deviceOf (ext : Externals) (nodeId : NodeId) (capacity : UInt8) :
    Environment World Call Call.Answer :=
  (system ext).restrict (HasCapacity nodeId capacity)

/-- The device holds nothing but what it was meant to be given. -/
structure Given (value : MatterMicros) (zone : List MatterTimeZoneEntry)
    (dst : List MatterDstOffsetEntry) (peer : Peer) : Prop where
  setting : ∀ s, peer.setting = some s → s.value = value
  zone : peer.zone = [] ∨ peer.zone = zone
  dst : peer.dst = [] ∨ peer.dst = dst

/-- The requests that give it no more. -/
def Gives (value : MatterMicros) (zone : List MatterTimeZoneEntry) (dst : List MatterDstOffsetEntry) :
    Request → Prop
  | .setUtcTime v => v = value
  | .setTimeZone entries => entries = zone
  | .setDstOffset entries => entries = dst
  | _ => True

section Device

variable {ext : Externals} {ctx : Ctx} {nodeId : NodeId} {capacity : UInt8} {value : MatterMicros}
  {zone : List MatterTimeZoneEntry} {dst : List MatterDstOffsetEntry} {α : Type}

theorem given_watch (nodeId : NodeId) (w : World) :
    Given value zone dst ((w.watch nodeId).peers nodeId) := by
  unfold World.watch
  simp only [Function.update_self]
  exact ⟨(fun s h => nomatch h), .inl rfl, .inl rfl⟩

theorem given_process {r : Request} (hr : Gives value zone dst r) {peer : Peer}
    (h : Given value zone dst peer) (sampled at_ : Timestamp) (answered : Bool) :
    Given value zone dst (peer.process sampled at_ answered r) := by
  cases r with
  | setUtcTime v =>
      refine ⟨fun s hs => ?_, h.zone, h.dst⟩
      obtain rfl := Option.some.inj hs
      exact hr
  | utcTimeRead => cases answered <;> exact ⟨h.setting, h.zone, h.dst⟩
  | setTimeZone entries => exact ⟨h.setting, .inr hr, h.dst⟩
  | setDstOffset entries => exact ⟨h.setting, h.zone, .inr hr⟩
  | _ => exact h

/-- What a part of the program that only makes such requests keeps. -/
theorem safe_gives {p : Prog α} (hp : p.Uses (Talks (Gives value zone dst))) {w : World}
    (h : Given value zone dst (w.peers nodeId)) :
    Safe (deviceOf ext nodeId capacity) (fun w' => Given value zone dst (w'.peers nodeId)) p
      (fun _ w' => Given value zone dst (w'.peers nodeId)) w := by
  refine Safe.of_uses hp ?_ h
  intro c w' m hc hm h
  unfold Talks at hc
  split at hc
  · exact h
  · exact h
  · exact h
  · exact h
  · rename_i n r
    exact peer_wireEffect h fun peer at_ h => given_process hc h ..
  · exact hc.elim

theorem safe_request_gives {r : Request} (hr : Gives value zone dst r) (what : String) {w : World}
    (h : Given value zone dst (w.peers nodeId)) :
    Safe (deviceOf ext nodeId capacity) (fun w' => Given value zone dst (w'.peers nodeId))
      (request ext ctx nodeId r what).run (fun _ w' => Given value zone dst (w'.peers nodeId)) w :=
  safe_gives (talk_request ext ctx nodeId r what hr) h

/-- The capacity the lists are built for is the device's. -/
theorem readCapacity_spec {w : World} (h : Given value zone dst (w.peers nodeId)) :
    Safe (deviceOf ext nodeId capacity) (fun w' => Given value zone dst (w'.peers nodeId))
      (request ext ctx nodeId .dstOffsetListMaxSizeRead "read dstOffsetListMaxSize").run
      (fun r _ => ∀ size, r = .ok size → size = capacity) w := by
  unfold request
  refine Safe.run_bind ((safe_gives (talk_connect ext ctx nodeId) h).and_returns
    (returns_connect ext ctx nodeId)) (fun _ h => h) ?_ fun e w₁ _ _ => nofun
  intro n w₁ h₁ ⟨_, hn⟩
  obtain rfl := hn n rfl
  refine .ask_bind h₁ fun m hm => safe_orFail.mpr ⟨?_, fun size hsize => ?_⟩
  · exact peer_wireEffect h₁ fun peer at_ h =>
      given_process (r := .dstOffsetListMaxSizeRead) trivial h ..
  · exact hm.2 rfl size (eq_ok_of_mapError hsize)

/-- The zone and DST writes give the device the two lists from the present instant on. -/
theorem writeZoneAndDst_gives (tz : TimeZone) (nowTs : Timestamp)
    (hzone : zone = buildTimeZoneList tz ctx.config.timezone nowTs)
    (hdst : dst = buildDstOffsetList tz capacity.toNat nowTs) {w : World}
    (h : Given value zone dst (w.peers nodeId)) :
    Safe (deviceOf ext nodeId capacity) (fun w' => Given value zone dst (w'.peers nodeId))
      (writeZoneAndDst ext ctx nodeId tz nowTs).run
      (fun _ w' => Given value zone dst (w'.peers nodeId)) w := by
  unfold writeZoneAndDst
  refine Safe.run_bind (safe_request_gives (r := .setTimeZone _) hzone.symm _ h) (fun _ h => h) ?_ fun _ _ h _ => h
  intro response w₁ h₁ _
  have complete := talk_complete (R := Gives value zone dst) nodeId "SetTimeZone completion" trivial
  refine Safe.run_bind (safe_gives complete h₁) (fun _ h => h) ?_ fun _ _ h _ => h
  intro _ w₂ h₂ _
  split
  · exact safe_run_pure.mpr ⟨h₂, h₂⟩
  · refine Safe.run_bind (readCapacity_spec h₂) (fun _ h => h) ?_ fun _ _ h _ => h
    rintro size w₃ h₃ hsize
    obtain rfl := hsize size rfl
    refine Safe.run_bind (safe_request_gives (r := .setDstOffset _) hdst.symm _ h₃) (fun _ h => h) ?_ fun _ _ h _ => h
    exact fun _ w₄ h₄ _ => safe_run_pure.mpr ⟨h₄, h₄⟩

/-- A sync gives the device the value it was called with, and the lists from its first look at the
clock on. -/
theorem syncOne_gives {w w' : World} {m : (deviceOf ext nodeId capacity).Move .now}
    {tr : List (Event (deviceOf ext nodeId capacity))} {q : Prog (Except Failure SyncOutcome)}
    (run : Exec (deviceOf ext nodeId capacity) (syncOne ext ctx nodeId (some value)).run w
      (⟨.now, m⟩ :: tr) q w')
    (h : Given value (buildTimeZoneList ctx.config.timeZone ctx.config.timezone m.later)
      (buildDstOffsetList ctx.config.timeZone capacity.toNat m.later) (w.peers nodeId)) :
    Given value (buildTimeZoneList ctx.config.timeZone ctx.config.timezone m.later)
      (buildDstOffsetList ctx.config.timeZone capacity.toNat m.later) (w'.peers nodeId) := by
  generalize hzone : buildTimeZoneList ctx.config.timeZone ctx.config.timezone m.later = zone at h ⊢
  generalize hdst : buildDstOffsetList ctx.config.timeZone capacity.toNat m.later = dst at h ⊢
  -- the first call is the look at the clock, which fixes the lists
  unfold syncOne at run
  obtain ⟨-, rest⟩ := run.of_ask_bind
  refine Safe.exec (I := fun w' => Given value zone dst (w'.peers nodeId)) (Q := fun _ _ => True)
    ?_ rest
  refine Safe.run_bind (safe_gives (talk_readFeatureMap ext ctx nodeId trivial)
    (w := (deviceOf ext nodeId capacity).next .now w m) h) (fun _ h => h) ?_ fun _ _ _ _ => trivial
  intro featureMap w₁ h₁ _
  cases featureMap with
  | none => exact safe_run_pure.mpr ⟨h₁, trivial⟩
  | some featureMap =>
      refine Safe.run_bind (safe_request_gives (r := .utcTimeRead) trivial _ h₁) (fun _ h => h) ?_
        fun _ _ _ _ => trivial
      intro deviceBefore w₂ h₂ _
      refine Safe.run_bind (safe_gives talk_matterNow h₂) (fun _ h => h) ?_ fun _ _ _ _ => trivial
      intro now w₃ h₃ _
      -- the value is that of the manual time, whatever the clock says now
      refine Safe.run_bind (R := fun r _ => r = .ok value)
        (safe_run_pure.mpr ⟨h₃, rfl⟩) (fun _ h => h) ?_ fun _ _ _ _ => trivial
      intro _ w₄ h₄ hvalue
      cases hvalue
      refine Safe.run_bind (R := fun _ _ => True) ?_ (fun _ h => h) ?_ fun _ _ _ _ => trivial
      · unfold writeClock
        refine Safe.run_bind (safe_request_gives (r := .setUtcTime value) rfl _ h₄) (fun _ h => h) ?_
          fun _ _ _ _ => trivial
        intro _ w₅ h₅ _
        split
        · exact (writeZoneAndDst_gives _ _ hzone.symm hdst.symm h₅).mono (fun _ h => h)
            fun _ _ _ _ => trivial
        · exact safe_run_pure.mpr ⟨h₅, trivial⟩
      · rintro ⟨timeZoneWritten, dstEntriesWritten⟩ w₅ h₅ -
        refine Safe.run_bind (safe_gives (talk_verifyClock ext ctx nodeId value trivial) h₅)
          (fun _ h => h) ?_ fun _ _ _ _ => trivial
        intro afterAssessment w₆ h₆ _
        have talk := talk_ensureFabricLabel (R := Gives value zone dst) ext ctx nodeId trivial
          (fun _ => trivial) trivial
        refine Safe.run_bind (safe_gives talk h₆) (fun _ h => h) ?_ fun _ _ _ _ => trivial
        exact fun _ w₇ h₇ _ => safe_run_pure.mpr ⟨h₇, trivial⟩

/-! ## The requested time -/

/-- The rules of the zone, as a device gets them at `now`, show `t` as the zone does: a past instant (from
the Matter epoch on, which is as far back as a device goes) if the offset is still the same, a later one
if it is within reach of the list or falls on standard time. -/
def ShownRight (tz : TimeZone) (capacity : Nat) (now t : Timestamp) : Prop :=
  if t < now then
    max t.nanos (matterEpochUnixSeconds * 1000000000) + tz.toOffset now * 1000000000 =
      t.nanos + tz.toOffset t * 1000000000
  else WithinReach tz capacity now t ∨ tz.toOffset t = standardOffsetSeconds tz now

theorem localTime_iff {tz : TimeZone} {name : String} {n : Nat} {now t : Timestamp} {civil : Int}
    {peer : Peer} (present : now.SinceMatterEpoch) (shows : tz.Shows t civil)
    (zone : peer.zone = buildTimeZoneList tz name now) (dst : peer.dst = buildDstOffsetList tz n now) :
    peer.localTime (.fromTimestamp t) = civil * 1000000 ↔ ShownRight tz n now t := by
  have hmicros := MatterMicros.fromTimestamp_micros t
  unfold Peer.localTime ShownRight
  rw [zone, dst, zoneOffsetAt_build, hmicros]
  unfold TimeZone.Shows at shows
  unfold Timestamp.SinceMatterEpoch at present
  unfold matterEpochUnixMicros matterEpochUnixSeconds at *
  split
  · rename_i hlt
    rw [dstOffsetAt_of_lt present hlt]
    rcases lt_or_ge t.nanos 0 with hneg | hpos
    · have h := Timestamp.asMicrosecond_of_neg hneg
      omega
    · rw [Timestamp.asMicrosecond_of_nonneg hpos]
      omega
  · rename_i hge
    have hle : now ≤ t := not_lt.mp hge
    have hnanos : now.nanos ≤ t.nanos := hle
    rw [Timestamp.asMicrosecond_of_nonneg (by omega)]
    by_cases reach : WithinReach tz n now t
    · rw [dstOffsetAt_of_reach present hle reach]
      simp only [reach, true_or, iff_true]
      omega
    · rw [dstOffsetAt_of_beyond present hle reach]
      simp only [reach, false_or]
      omega

/-- **When `sync --time` shows the requested time.**  In every run of the command for one device, once the
device has accepted all three writes, the local time it shows for the written instant is the time that
was asked for on the host's date exactly when the rules of the zone, taken from the second look at the
clock on, show the instant that the time was placed at. -/
theorem requested_time_shown_iff {raw : String} {wall : CivilTime} {w w' : World}
    {m₁ m₂ : (deviceOf ext nodeId capacity).Move .now}
    {tr : List (Event (deviceOf ext nodeId capacity))} {q : Prog (Except Failure SyncOutcome)}
    {s : ClockSetting} (parsed : parseWallClock raw = .ok wall)
    (onDate : ∃ t, ctx.config.timeZone.Shows t (wall.on (ctx.config.timeZone.localDay m₁.later)))
    (present : Timestamp.SinceMatterEpoch m₂.later)
    (run : Exec (deviceOf ext nodeId capacity)
      (manualInstant ext ctx.config raw >>= fun m => syncOne ext ctx nodeId (some m)).run
      (w.watch nodeId) (⟨.now, m₁⟩ :: ⟨.now, m₂⟩ :: tr) q w')
    (set : (w'.peers nodeId).setting = some s) (zoned : (w'.peers nodeId).zone ≠ [])
    (dst : (w'.peers nodeId).dst ≠ []) :
    ∃ t, ext.civilToZoned ctx.config.timeZone
        (wall.on (ctx.config.timeZone.localDay m₁.later)) = .ok t ∧
      ((w'.peers nodeId).localTime s.value =
          wall.on (ctx.config.timeZone.localDay m₁.later) * 1000000 ↔
        ShownRight ctx.config.timeZone capacity.toNat m₂.later t) := by
  obtain ⟨t, placed, shows⟩ := ext.civilToZoned_shows onDate
  refine ⟨t, placed, ?_⟩
  rw [manualInstant_of_parsed ctx.config parsed, bind_assoc] at run
  obtain ⟨-, run⟩ := run.of_ask_bind
  have hanswer : (deviceOf ext nodeId capacity).answer .now (w.watch nodeId) m₁ = m₁.later := rfl
  rw [hanswer, placeInstant_placed placed] at run
  have given := syncOne_gives run (given_watch nodeId w)
  rw [given.setting s set]
  exact localTime_iff present shows (given.zone.resolve_left zoned) (given.dst.resolve_left dst)

/-! ### The hour that is over -/

theorem hasCapacity_move (s : Scenario) (nodeId : NodeId) (c : Call) (w : World) :
    HasCapacity nodeId s.dstOffsetListMaxSize c w (s.move c w) := by
  unfold HasCapacity
  split
  · rintro - size h
    exact (Except.ok.inj h).symm
  · trivial

/-- A scenario with a device of its capacity. -/
def Scenario.device (s : Scenario) (nodeId : NodeId) :
    Script (deviceOf reference nodeId s.dstOffsetListMaxSize) :=
  s.script.restrict (hasCapacity_move s nodeId)

/-- A device with the TimeZone feature and room for four DST offsets. -/
def zoned : Scenario := { featureMap := featureTimeZone, dstOffsetListMaxSize := 4 }

/-- Half past midnight on the day that daylight saving time ends. -/
def halfPastMidnight : CivilTime := ⟨0, 30, 0, by decide, by decide, by decide⟩

/-- 2026-11-01T05:30:00Z, when it was half past midnight in Chicago. -/
def requested : Timestamp := ⟨1793511000 * 1000000000, by decide, by decide⟩

theorem parse_halfPastMidnight : parseWallClock "0:30" = .ok halfPastMidnight := by decide +kernel

/-- A transition of the zone. -/
def transition (second : Int) (h : minNanos ≤ second * 1000000000 ∧ second * 1000000000 ≤ maxNanos) :
    Timestamp := ⟨second * 1000000000, h.1, h.2⟩

theorem place_halfPastMidnight : reference.civilToZoned chicago
    (halfPastMidnight.on (chicago.localDay noon)) = .ok requested := by
  show Reference.civilToZoned _ _ = _
  rw [Reference.civilToZoned,
    Reference.firstShowing_of_next (s := transition 1772956800 (by decide)) (by decide +kernel),
    Reference.firstShowing_of_next (s := transition 1793516400 (by decide)) (by decide +kernel)]
  decide +kernel

/-- `sync --time 0:30` for node 5. -/
def syncHalfPastMidnight : Action SyncOutcome :=
  manualInstant reference Scenario.ctx.config "0:30" >>= fun m =>
    syncOne reference Scenario.ctx 5 (some m)

/-- The sync itself, from the world that the first look at the clock leaves. -/
def placedSync : Prog (Except Failure SyncOutcome) × World :=
  ((syncOne reference Scenario.ctx 5 (some (.fromTimestamp requested))).run,
    { Scenario.freshHost.watch 5 with sampled := noon })

/-- Where it ends. -/
def placedSynced : Except Failure SyncOutcome × World :=
  (zoned.device 5).play placedSync.1 placedSync.2

theorem run_syncHalfPastMidnight : ∃ next, syncHalfPastMidnight.run = .call .now next ∧
    next noon = placedSync.1 := by
  rw [syncHalfPastMidnight, manualInstant_of_parsed _ parse_halfPastMidnight, bind_assoc,
    Effect.run_bind, run_ask, Program.call_bind]
  refine ⟨_, rfl, ?_⟩
  rw [Program.done_bind, continueWith_ok, placeInstant_placed place_halfPastMidnight]
  rfl

theorem exec_syncHalfPastMidnight : Exec (deviceOf reference 5 4) syncHalfPastMidnight.run
    (Scenario.freshHost.watch 5) (⟨.now, ⟨noon, ()⟩⟩ :: ⟨.now, ⟨noon, ()⟩⟩ ::
      ((zoned.device 5).trace placedSync.1 placedSync.2).tail)
    (.done placedSynced.1) placedSynced.2 := by
  obtain ⟨next, hrun, hnext⟩ := run_syncHalfPastMidnight
  rw [hrun]
  refine .call ((zoned.device 5).admitted .now (Scenario.freshHost.watch 5)) ?_
  change Exec _ (next noon) placedSync.2 _ _ _
  rw [hnext]
  exact (zoned.device 5).exec placedSync.1 placedSync.2

/-- The setting of the clock in that run. -/
def requestedSetting : ClockSetting :=
  { value := .fromTimestamp requested, applied := noon, sampled := noon }

theorem placedSynced_zone : (placedSynced.2.peers 5).zone =
    buildTimeZoneList chicago "America/Chicago" noon := rfl

theorem placedSynced_dst : (placedSynced.2.peers 5).dst =
    buildDstOffsetList chicago 4 noon := rfl

theorem requested_shows : chicago.Shows requested
    (halfPastMidnight.on (chicago.localDay noon)) := by
  unfold TimeZone.Shows
  decide +kernel

theorem halfPastMidnight_shown_iff : ∃ t, reference.civilToZoned chicago
      (halfPastMidnight.on (chicago.localDay noon)) = .ok t ∧
    ((placedSynced.2.peers 5).localTime requestedSetting.value =
        halfPastMidnight.on (chicago.localDay noon) * 1000000 ↔
      ShownRight chicago 4 noon t) := by
  refine requested_time_shown_iff (s := requestedSetting) parse_halfPastMidnight
    ⟨requested, requested_shows⟩ noon_sinceMatterEpoch exec_syncHalfPastMidnight
    (by decide +kernel) (by rw [placedSynced_zone]; exact nofun) ?_
  rw [placedSynced_dst]
  exact buildDstOffsetList_ne_nil _ _ _

/-- Asked for half past midnight on the day that daylight saving time ends, a few hours after it has
ended, a device that accepts everything shows another time. -/
theorem halfPastMidnight_shown_wrong :
    parseWallClock "0:30" = .ok halfPastMidnight ∧
    chicago.Shows requested (halfPastMidnight.on (chicago.localDay noon)) ∧
    (∃ tr, Exec (deviceOf reference 5 4) syncHalfPastMidnight.run (Scenario.freshHost.watch 5) tr
      (.done placedSynced.1) placedSynced.2) ∧
    Succeeded placedSynced.1 ∧
    (placedSynced.2.peers 5).setting = some requestedSetting ∧
    (placedSynced.2.peers 5).localTime requestedSetting.value ≠
      halfPastMidnight.on (chicago.localDay noon) * 1000000 := by
  refine ⟨parse_halfPastMidnight, requested_shows, ⟨_, exec_syncHalfPastMidnight⟩, by decide +kernel,
    by decide +kernel, ?_⟩
  have past : requested < noon := by decide
  refine (localTime_iff noon_sinceMatterEpoch requested_shows placedSynced_zone placedSynced_dst).not.mpr ?_
  unfold ShownRight
  rw [if_pos past]
  decide +kernel

end Device

end MatterTimeCtl
