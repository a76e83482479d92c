/-
# MatterTimeCtl.Device.Clock — a sync and the clock of the device it sets.

The value a sync writes is fixed before the exchange that carries it is opened, and the read-back is
compared with that value, not with the present.  So two delays decide what a sync leaves behind and what
it says: the one between the sampling of the value and its arrival, which the verification cannot see,
and the one between its arrival and the read-back, which the verification takes for an error of the
device.

`syncOne_clock` follows one sync of a device that keeps time through all of its exchanges, for all the
retries and delays they can take.  The two results are read off where it ends.
-/
import MatterTimeCtl.Scenario
import MatterTimeCtl.Controller.Footprint

namespace MatterTimeCtl

open Files Effect

/-! ## Devices that keep time -/

/-- The epoch a device counts its reported utcTime from. -/
inductive WireEpoch where
  | matter
  /-- Off-spec, and recognised by the comparison. -/
  | unix
  deriving DecidableEq

def WireEpoch.shift : WireEpoch → Int
  | .matter => 0
  | .unix => matterEpochUnixMicros

/-- Once its clock was set, the device reports what its clock shows when it processes the read. -/
def KeepsTime (nodeId : NodeId) (epoch : WireEpoch) : (c : Call) → World → Call.Move c → Prop
  | .wire n .utcTimeRead, w, m => n = nodeId → ∀ s at_ reading, (w.peers n).setting = some s →
    m.choice.processed = some at_ → m.choice.reply = .ok reading →
    ∃ v : MatterMicros, reading = some v ∧ (v.micros : Int) = s.clock at_ / 1000 + epoch.shift
  | _, _, _ => True

/-- The environment with a device that keeps time. -/
abbrev timekeeper (ext : Externals) (nodeId : NodeId) (epoch : WireEpoch) :
    Environment World Call Call.Answer :=
  (system ext).restrict (KeepsTime nodeId epoch)

/-- Start a record of what is done to a device. -/
def World.watch (w : World) (nodeId : NodeId) : World :=
  { w with peers := Function.update w.peers nodeId {} }

/-- The sync has verified the device's clock. -/
def Succeeded (result : Except Failure SyncOutcome) : Prop :=
  ∃ outcome, result = .ok outcome ∧ outcome.success = true

instance (result : Except Failure SyncOutcome) : Decidable (Succeeded result) :=
  match result with
  | .ok outcome =>
    decidable_of_iff (outcome.success = true)
      ⟨fun h => ⟨outcome, rfl, h⟩, fun ⟨_, h, hs⟩ => Except.ok.inj h ▸ hs⟩
  | .error _ => .isFalse fun ⟨_, h, _⟩ => nomatch h

theorem not_succeeded_error (e : Failure) : ¬ Succeeded (.error e) := by
  rintro ⟨outcome, h, -⟩
  cases h

/-! ## Opening an exchange -/

/-- While an exchange is being opened, the devices stay as they are and time passes. -/
structure Dialed (w w' : World) : Prop where
  peers : w'.peers = w.peers
  sampled : w'.sampled = w.sampled
  clock : w.clock ≤ w'.clock

/-- Nothing in between touches the clock of the device. -/
structure Held (nodeId : NodeId) (w w' : World) : Prop where
  setting : (w'.peers nodeId).setting = (w.peers nodeId).setting
  readAt : (w'.peers nodeId).readAt = (w.peers nodeId).readAt
  clock : w.clock ≤ w'.clock

theorem Held.refl (nodeId : NodeId) (w : World) : Held nodeId w w := ⟨rfl, rfl, le_rfl⟩

theorem Held.trans {nodeId : NodeId} {w w' w'' : World} (h : Held nodeId w w')
    (h' : Held nodeId w' w'') : Held nodeId w w'' :=
  ⟨h'.setting.trans h.setting, h'.readAt.trans h.readAt, h.clock.trans h'.clock⟩

/-- The requests that do not concern the clock. -/
def NotClock : Request → Prop
  | .setUtcTime _ | .utcTimeRead => False
  | _ => True

/-- The requests that do not set the clock. -/
def NotSet (r : Request) : Prop := ∀ value, r ≠ .setUtcTime value

theorem NotClock.notSet {r : Request} (h : NotClock r) : NotSet r := by
  rintro value rfl
  exact h

theorem setting_wireEffect {r : Request} (hr : NotSet r) (w : World) (n nodeId : NodeId)
    (tx : Transaction (Except MatterError r.Reply)) :
    ((wireEffect w n r tx).peers nodeId).setting = (w.peers nodeId).setting := by
  refine peer_wireEffect (P := fun peer => peer.setting = _) rfl fun peer at_ h => ?_
  cases r with
  | setUtcTime value => exact absurd rfl (hr value)
  | utcTimeRead => cases tx.reply.isOk <;> exact h
  | _ => exact h

theorem readAt_wireEffect {r : Request} (hr : NotClock r) (w : World) (n nodeId : NodeId)
    (tx : Transaction (Except MatterError r.Reply)) :
    ((wireEffect w n r tx).peers nodeId).readAt = (w.peers nodeId).readAt := by
  refine peer_wireEffect (P := fun peer => peer.readAt = _) rfl fun peer at_ h => ?_
  cases r with
  | setUtcTime _ | utcTimeRead => exact hr.elim
  | _ => exact h

section Clock

variable {ext : Externals} {ctx : Ctx} {nodeId : NodeId} {epoch : WireEpoch}
  {manualTime : Option MatterMicros} {α : Type}

theorem safe_dials {p : Prog α} (hp : p.Uses Dials) (w : World) :
    Safe (timekeeper ext nodeId epoch) (fun _ => True) p (fun _ w' => Dialed w w') w := by
  refine (Safe.of_uses (J := Dialed w) hp ?_ ⟨rfl, rfl, le_rfl⟩).mono (fun _ _ => trivial)
    fun _ _ h _ => h
  intro c w' m hc hm h
  have hclock : w.clock ≤ m.later := h.clock.trans hm.1.1
  unfold Dials at hc
  split at hc
  · exact ⟨h.peers, h.sampled, hclock⟩
  · exact ⟨h.peers, h.sampled, hclock⟩
  · exact ⟨h.peers, h.sampled, hclock⟩
  · exact hc.elim

/-- The device after a request it processed. -/
theorem peer_next (w : World) (r : Request) (later at_ : Timestamp)
    (reply : Except MatterError r.Reply) :
    ((timekeeper ext nodeId epoch).next (.wire nodeId r) w ⟨later, some at_, reply⟩).peers nodeId =
      (w.peers nodeId).process w.sampled at_ reply.isOk r := Function.update_self ..

/-- A request, once the exchange for it is open. -/
theorem safe_request {r : Request} {what : String} {Q : Except Failure r.Reply → World → Prop}
    {w : World} (failed : ∀ e w₁, Dialed w w₁ → Q (.error e) w₁)
    (sent : ∀ w₁ (m : Call.Move (.wire nodeId r)), Dialed w w₁ →
      (timekeeper ext nodeId epoch).admits (.wire nodeId r) w₁ m →
      Q (m.choice.reply.mapError (.matter what))
        ((timekeeper ext nodeId epoch).next (.wire nodeId r) w₁ m)) :
    Safe (timekeeper ext nodeId epoch) (fun _ => True) (request ext ctx nodeId r what).run Q w := by
  unfold request
  refine Safe.run_bind ((safe_dials (dials_connect ext ctx nodeId) w).and_returns
    (returns_connect ext ctx nodeId)) (fun _ h => h) ?_ fun e w₁ _ h => failed e w₁ h.1
  intro n w₁ _ ⟨hdial, hn⟩
  obtain rfl := hn n rfl
  exact .ask_bind trivial fun m hm => safe_orFail.mpr ⟨trivial, sent w₁ m hdial hm⟩

/-- What does not set the clock leaves a record without a setting empty. -/
theorem safe_notSet {p : Prog α} (hp : p.Uses (Talks NotSet)) {w : World}
    (unset : (w.peers nodeId).setting = none) :
    Safe (timekeeper ext nodeId epoch) (fun _ => True) p
      (fun _ w' => (w'.peers nodeId).setting = none) w := by
  refine (Safe.of_uses (J := fun w' => (w'.peers nodeId).setting = none) hp ?_ unset).mono
    (fun _ _ => trivial) fun _ _ h _ => h
  intro c w' m hc hm h
  unfold Talks at hc
  split at hc
  · exact h
  · exact h
  · exact h
  · exact h
  · rename_i n r
    exact (setting_wireEffect hc ..).trans h
  · exact hc.elim

theorem safe_notClock {p : Prog α} (hp : p.Uses (Talks NotClock)) (w : World) :
    Safe (timekeeper ext nodeId epoch) (fun _ => True) p (fun _ w' => Held nodeId w w') w := by
  refine (Safe.of_uses (J := Held nodeId w) hp ?_ (.refl nodeId w)).mono (fun _ _ => trivial)
    fun _ _ h _ => h
  intro c w' m hc hm h
  refine h.trans ?_
  have hclock : w'.clock ≤ m.later := hm.1.1
  unfold Talks at hc
  split at hc
  · exact ⟨rfl, rfl, hclock⟩
  · exact ⟨rfl, rfl, hclock⟩
  · exact ⟨rfl, rfl, hclock⟩
  · exact ⟨rfl, rfl, hclock⟩
  · rename_i n r
    exact ⟨setting_wireEffect hc.notSet .., readAt_wireEffect hc .., hclock⟩
  · exact hc.elim

/-! ## One sync -/

/-- The value a sync writes: the operator's, or the host's clock when it was last read. -/
def valueToWrite (manualTime : Option MatterMicros) (sampled : Timestamp) : MatterMicros :=
  manualTime.getD (.fromTimestamp sampled)

/-- The device has applied the value of this sync and was not read since. -/
structure Applied (nodeId : NodeId) (manualTime : Option MatterMicros) (s : ClockSetting)
    (w : World) : Prop where
  setting : (w.peers nodeId).setting = some s
  unread : (w.peers nodeId).readAt = none
  value : s.value = valueToWrite manualTime s.sampled
  past : s.applied ≤ w.clock

theorem Applied.held {s : ClockSetting} {w w' : World} (h : Applied nodeId manualTime s w)
    (hw : Held nodeId w w') : Applied nodeId manualTime s w' :=
  ⟨hw.setting.trans h.setting, hw.readAt.trans h.unread, h.value, h.past.trans hw.clock⟩

/-- The device was set by this sync, read back at `r`, and answered `v`. -/
structure ReadBack (nodeId : NodeId) (epoch : WireEpoch) (manualTime : Option MatterMicros)
    (s : ClockSetting) (r : Timestamp) (v : MatterMicros) (w : World) : Prop where
  setting : (w.peers nodeId).setting = some s
  readAt : (w.peers nodeId).readAt = some r
  value : s.value = valueToWrite manualTime s.sampled
  applied_le : s.applied ≤ r
  shown : (v.micros : Int) = s.clock r / 1000 + epoch.shift

theorem ReadBack.held {s : ClockSetting} {r : Timestamp} {v : MatterMicros} {w w' : World}
    (h : ReadBack nodeId epoch manualTime s r v w) (hw : Held nodeId w w') :
    ReadBack nodeId epoch manualTime s r v w' :=
  ⟨hw.setting.trans h.setting, hw.readAt.trans h.readAt, h.value, h.applied_le, h.shown⟩

/-- What the read-back is judged by. -/
def Verified (v written : MatterMicros) : Prop :=
  (ClockAssessment.compare (some v) written).withinTolerance verifyToleranceMicros = true

/-- The sync has not got as far as reading the clock back. -/
def NotReadBack (nodeId : NodeId) (w : World) : Prop :=
  (w.peers nodeId).setting = none ∨ (w.peers nodeId).readAt = none

/-- SetUTCTime: the device has applied the value, unless the request fails. -/
theorem setUtcTime_spec {utcWrite : MatterMicros} {w : World}
    (unset : (w.peers nodeId).setting = none) (value : utcWrite = valueToWrite manualTime w.sampled) :
    Safe (timekeeper ext nodeId epoch) (fun _ => True)
      (request ext ctx nodeId (.setUtcTime utcWrite) "SetUTCTime rejected").run
      (fun r w' => match r with
        | .ok _ => ∃ s, Applied nodeId manualTime s w' ∧ s.value = utcWrite
        | .error _ => NotReadBack nodeId w') w := by
  refine safe_request (fun e w₁ h => .inl ?_) fun w₁ m hdial hm => ?_
  · rw [h.peers]
    exact unset
  · obtain ⟨later, processed, reply⟩ := m
    obtain ⟨⟨-, hwithin, hreply⟩, -⟩ := hm
    -- what counts is whether the device processed the write: the reply may be lost on the way back
    cases processed with
    | none =>
        cases reply with
        | ok a => exact absurd rfl (hreply a rfl)
        | error e =>
            refine .inl ?_
            show (w₁.peers nodeId).setting = none
            rw [hdial.peers]
            exact unset
    | some at_ =>
        have hat : at_ ≤ later := (hwithin at_ rfl).2
        have happlied : Applied nodeId manualTime ⟨utcWrite, at_, w₁.sampled⟩
            ((timekeeper ext nodeId epoch).next (.wire nodeId (.setUtcTime utcWrite)) w₁
              ⟨later, some at_, reply⟩) := by
          refine ⟨?_, ?_, ?_, hat⟩
          · rw [peer_next]
            rfl
          · rw [peer_next]
            rfl
          · rw [hdial.sampled]
            exact value
        cases reply with
        | ok a => exact ⟨_, happlied, rfl⟩
        | error e => exact .inr happlied.unread

/-- The two writes of a sync. -/
theorem writeClock_spec {hasTimeZone : Bool} {utcWrite : MatterMicros} {nowTs : Timestamp} {w : World}
    (unset : (w.peers nodeId).setting = none) (value : utcWrite = valueToWrite manualTime w.sampled) :
    Safe (timekeeper ext nodeId epoch) (fun _ => True)
      (writeClock ext ctx nodeId hasTimeZone utcWrite nowTs).run
      (fun r w' => match r with
        | .ok _ => ∃ s, Applied nodeId manualTime s w' ∧ s.value = utcWrite
        | .error _ => NotReadBack nodeId w') w := by
  unfold writeClock
  refine Safe.run_bind (setUtcTime_spec unset value) (fun _ h => h) ?_ fun e w₁ _ h => h
  rintro ⟨⟩ w₁ - ⟨s, happlied, hs⟩
  cases hasTimeZone with
  | false => exact safe_run_pure.mpr ⟨trivial, s, happlied, hs⟩
  | true =>
      have talk := talk_writeZoneAndDst (R := NotClock) ext ctx nodeId ctx.config.timeZone nowTs
        (fun _ => trivial) trivial trivial fun _ => trivial
      refine (safe_notClock talk w₁).mono (fun _ h => h) fun r w₂ _ hheld => ?_
      cases r with
      | ok out => exact ⟨s, happlied.held hheld, hs⟩
      | error e => exact .inr (happlied.held hheld).unread

/-- The read-back: what the device answers is judged against what was written. -/
theorem verifyClock_spec {s : ClockSetting} {w : World} (h : Applied nodeId manualTime s w) :
    Safe (timekeeper ext nodeId epoch) (fun _ => True) (verifyClock ext ctx nodeId s.value).run
      (fun result w' => match result with
        | .ok _ => ∃ r v, ReadBack nodeId epoch manualTime s r v w' ∧ Verified v s.value
        | .error _ => NotReadBack nodeId w' ∨
          ∃ r v, ReadBack nodeId epoch manualTime s r v w' ∧ ¬ Verified v s.value) w := by
  -- reading the clock back, then judging the reading
  unfold verifyClock
  refine Safe.run_bind (I := fun _ => True) (R := fun result w' => match result with
      | .ok reading => ∃ r v, reading = some v ∧ ReadBack nodeId epoch manualTime s r v w'
      | .error _ => NotReadBack nodeId w') ?_ (fun _ h => h) ?_ fun e w₁ _ h => .inl h
  · refine safe_request (fun e w₁ hdial => .inr ?_) fun w₁ m hdial hm => ?_
    · rw [hdial.peers]
      exact h.unread
    · obtain ⟨later, processed, reply⟩ := m
      obtain ⟨⟨-, hwithin, hreply⟩, hkeeps⟩ := hm
      have hset : (w₁.peers nodeId).setting = some s := by
        rw [hdial.peers]
        exact h.setting
      have hunread : (w₁.peers nodeId).readAt = none := by
        rw [hdial.peers]
        exact h.unread
      -- what the device did not process it did not answer either
      cases processed with
      | none =>
          cases reply with
          | ok a => exact absurd rfl (hreply a rfl)
          | error e => exact .inr hunread
      | some at_ =>
          cases reply with
          | error e =>
              refine .inr ?_
              rw [peer_next]
              exact hunread
          | ok reading =>
              obtain ⟨v, rfl, hv⟩ := hkeeps rfl s at_ reading hset rfl rfl
              have hafter : s.applied ≤ at_ := (h.past.trans hdial.clock).trans (hwithin at_ rfl).1
              refine ⟨at_, v, rfl, ?_, ?_, h.value, hafter, hv⟩
              · rw [peer_next]
                exact hset
              · rw [peer_next]
                rfl
  · rintro reading w₁ - ⟨r, v, rfl, hread⟩
    dsimp only
    split
    · rename_i hout
      refine safe_run_throw.mpr ⟨trivial, .inr ⟨r, v, hread, ?_⟩⟩
      simpa [Verified] using hout
    · rename_i hout
      refine safe_run_pure.mpr ⟨trivial, r, v, hread, ?_⟩
      simpa [Verified] using hout

/-- The value to write is chosen: from here on it is what the sync goes by. -/
theorem utcToWrite_spec {w : World} (unset : (w.peers nodeId).setting = none) :
    Safe (timekeeper ext nodeId epoch) (fun _ => True) (utcToWrite manualTime).run
      (fun r w' => ∃ utcWrite, r = .ok utcWrite ∧ utcWrite = valueToWrite manualTime w'.sampled ∧
        (w'.peers nodeId).setting = none) w := by
  cases manualTime with
  | some m => exact safe_run_pure.mpr ⟨trivial, m, rfl, rfl, unset⟩
  | none => exact .ask_bind trivial fun m hm => safe_run_pure.mpr ⟨trivial, _, rfl, rfl, unset⟩

/-- Pushing the label is best-effort: it does not fail. -/
theorem returns_ensureFabricLabel (ext : Externals) (ctx : Ctx) (nodeId : NodeId) :
    (ensureFabricLabel ext ctx nodeId).run.Returns fun r => ∃ a, r = .ok a := by
  unfold ensureFabricLabel
  rw [Effect.run_bind, run_attempt, Program.bind_assoc]
  refine (Program.returns_trivial _).bind fun r _ => ?_
  rw [Program.done_bind]
  cases r with
  | ok _ => exact Program.returns_done.mpr ⟨_, rfl⟩
  | error _ => exact Program.returns_call.mpr fun _ => Program.returns_done.mpr ⟨_, rfl⟩

/-- How a sync ends: it succeeds exactly when it has read the clock back and the reading was
accepted. -/
def Ended (nodeId : NodeId) (epoch : WireEpoch) (manualTime : Option MatterMicros)
    (result : Except Failure SyncOutcome) (w : World) : Prop :=
  (¬ Succeeded result ∧ NotReadBack nodeId w) ∨
  ∃ s r v, ReadBack nodeId epoch manualTime s r v w ∧ (Succeeded result ↔ Verified v s.value)

/-- **One sync of a device that keeps time**, for all the retries and delays it can take. -/
theorem syncOne_clock (w : World) :
    Safe (timekeeper ext nodeId epoch) (fun _ => True) (syncOne ext ctx nodeId manualTime).run
      (Ended nodeId epoch manualTime) (w.watch nodeId) := by
  have unset : ((w.watch nodeId).peers nodeId).setting = none := by
    simp [World.watch]
  have failed : ∀ {e w'}, (w'.peers nodeId).setting = none →
      Ended nodeId epoch manualTime (.error e) w' := fun h => .inl ⟨not_succeeded_error _, .inl h⟩
  unfold syncOne
  refine .ask_bind trivial fun m hm => ?_
  -- up to the write, whatever the device answers, the record of its clock is empty
  have talk := talk_readFeatureMap (R := NotSet) ext ctx nodeId (fun _ => nofun)
  refine Safe.run_bind (safe_notSet talk (w := (timekeeper ext nodeId epoch).next .now _ m) unset)
    (fun _ h => h) ?_ fun e w₁ _ h => failed h
  intro featureMap w₁ _ unset₁
  cases featureMap with
  | none =>
      refine safe_run_pure.mpr ⟨trivial, .inl ⟨?_, .inl unset₁⟩⟩
      rintro ⟨outcome, h, hsuccess⟩
      cases h
      cases hsuccess
  | some featureMap =>
      have talk := talk_request (R := NotSet) ext ctx nodeId .utcTimeRead "read utcTime" fun _ => nofun
      refine Safe.run_bind (safe_notSet talk unset₁) (fun _ h => h) ?_ fun e w₂ _ h => failed h
      intro deviceBefore w₂ _ unset₂
      refine Safe.run_bind (safe_notSet talk_matterNow unset₂) (fun _ h => h) ?_
        fun e w₃ _ h => failed h
      intro now w₃ _ unset₃
      refine Safe.run_bind (utcToWrite_spec unset₃) (fun _ h => h) ?_ fun e w₄ _ ⟨_, h, _⟩ =>
        nomatch h
      rintro utcWrite w₄ - ⟨_, h, value, unset₄⟩
      cases h
      refine Safe.run_bind (writeClock_spec unset₄ value) (fun _ h => h) ?_
        fun e w₅ _ h => .inl ⟨not_succeeded_error _, h⟩
      rintro ⟨timeZoneWritten, dstEntriesWritten⟩ w₅ - ⟨s, happlied, rfl⟩
      refine Safe.run_bind (verifyClock_spec happlied) (fun _ h => h) ?_ fun e w₆ _ h => ?_
      · rintro afterAssessment w₆ - ⟨r, v, hread, hverified⟩
        -- the label is pushed best-effort, and without touching the clock
        have talk := talk_ensureFabricLabel (R := NotClock) ext ctx nodeId trivial
          (fun _ => trivial) trivial
        refine Safe.run_bind ((safe_notClock talk w₆).and_returns
          (returns_ensureFabricLabel ext ctx nodeId)) (fun _ h => h) ?_ ?_
        · intro _ w₇ _ ⟨hheld, _⟩
          exact safe_run_pure.mpr ⟨trivial, .inr ⟨s, r, v, hread.held hheld,
            fun _ => hverified, fun _ => ⟨_, rfl, rfl⟩⟩⟩
        · rintro e w₇ - ⟨-, a, h⟩
          cases h
      · rcases h with h | ⟨r, v, hread, hnot⟩
        · exact .inl ⟨not_succeeded_error _, h⟩
        · exact .inr ⟨s, r, v, hread, fun h => absurd h (not_succeeded_error _), fun h => absurd h hnot⟩

/-! ## From the write to the read-back -/

/-- The read-back comes in time: at most the tolerance after the clock was set, or, where that is taken
for the epoch shift of a device that has none, the epoch distance later. -/
def ReadInTime (epoch : WireEpoch) (applied r : Timestamp) : Prop :=
  let elapsed := (r.nanos - applied.nanos) / 1000
  elapsed ≤ verifyToleranceMicros ∨
    (epoch = .matter ∧ ((elapsed - matterEpochUnixMicros).natAbs : Int) ≤ verifyToleranceMicros)

theorem ReadBack.verified_iff {s : ClockSetting} {r : Timestamp} {v : MatterMicros} {w : World}
    (h : ReadBack nodeId epoch manualTime s r v w) :
    Verified v s.value ↔ ReadInTime epoch s.applied r := by
  have hle : s.applied.nanos ≤ r.nanos := h.applied_le
  have hshown := h.shown
  have tolerated : verifyToleranceMicros ≤ epochShiftDetectionWindowMicros := by decide
  unfold Verified ReadInTime
  rw [ClockAssessment.withinTolerance_iff v s.value tolerated]
  unfold ClockSetting.clock at hshown
  cases epoch with
  | matter =>
      simp only [WireEpoch.shift, true_and] at hshown ⊢
      unfold verifyToleranceMicros matterEpochUnixMicros matterEpochUnixSeconds at *
      omega
  | unix =>
      simp only [WireEpoch.shift, reduceCtorEq, false_and, or_false] at hshown ⊢
      unfold verifyToleranceMicros matterEpochUnixMicros matterEpochUnixSeconds at *
      omega

/-- **When a correct device is reported as verified.**  In every run of a sync in which the device
applied the value and was read back, whatever the steps took, the sync succeeds exactly when the
read-back came in time. -/
theorem correct_device_verified_iff {w w' : World} {tr : List (Event (timekeeper ext nodeId epoch))}
    {result : Except Failure SyncOutcome} {s : ClockSetting} {r : Timestamp}
    (run : Exec (timekeeper ext nodeId epoch) (syncOne ext ctx nodeId manualTime).run
      (w.watch nodeId) tr (.done result) w')
    (set : (w'.peers nodeId).setting = some s) (read : (w'.peers nodeId).readAt = some r) :
    Succeeded result ↔ ReadInTime epoch s.applied r := by
  have hend := (syncOne_clock w).result run
  rcases hend with ⟨-, hnone | hnone⟩ | ⟨s', r', v, h, hiff⟩
  · rw [set] at hnone
    cases hnone
  · rw [read] at hnone
    cases hnone
  · obtain rfl := Option.some.inj (set.symm.trans h.setting)
    obtain rfl := Option.some.inj (read.symm.trans h.readAt)
    exact hiff.trans h.verified_iff

/-! ### Syncs in full -/

/-- The devices of a scenario keep time. -/
theorem keepsTime_move (s : Scenario) (nodeId : NodeId) (c : Call) (w : World) :
    KeepsTime nodeId .matter c w (s.move c w) := by
  unfold KeepsTime
  split
  · rintro - setting at_ reading hset hprocessed hreply
    obtain rfl := Option.some.inj hprocessed
    change Scenario.reported _ _ = _ at hreply
    unfold Scenario.reported at hreply
    rw [hset] at hreply
    dsimp only at hreply
    split at hreply
    · rename_i v hv
      cases hreply
      refine ⟨v, rfl, ?_⟩
      unfold MatterMicros.tryFrom at hv
      split at hv
      · cases hv
        simp only [WireEpoch.shift]
        omega
      · cases hv
    · cases hreply
  · trivial

/-- A scenario with a device that keeps time. -/
def Scenario.timekeeping (s : Scenario) (nodeId : NodeId) : Script (timekeeper reference nodeId .matter) :=
  s.script.restrict (keepsTime_move s nodeId)

/-- Where the automatic sync of node 5 ends in a scenario. -/
def synced (s : Scenario) : Except Failure SyncOutcome × World :=
  (s.timekeeping 5).play (syncOne reference Scenario.ctx 5 none).run (Scenario.freshHost.watch 5)

theorem exec_synced (s : Scenario) : ∃ tr, Exec (timekeeper reference 5 .matter)
    (syncOne reference Scenario.ctx 5 none).run (Scenario.freshHost.watch 5) tr
    (.done (synced s).1) (synced s).2 := ⟨_, (s.timekeeping 5).exec _ _⟩

/-- So many seconds after the start. -/
def afterNoon (secs : Nat) : Timestamp := noon.afterSecs secs

/-- The value that a sync at the start writes. -/
def noonSetting (applied : Timestamp) : ClockSetting :=
  { value := .fromTimestamp noon, applied, sampled := noon }

theorem prompt_sync_verified : Succeeded (synced {}).1 := by
  obtain ⟨tr, run⟩ := exec_synced {}
  exact (correct_device_verified_iff (s := noonSetting noon) (r := noon) run
    (by decide +kernel) (by decide +kernel)).mpr (.inl (by decide))

/-- Once the clock is set, exchanges take 10 seconds to open. -/
def lateReadBack : Scenario where
  dialSecs peer := if peer.setting.isSome then 10 else 0

/-- A device that accepts everything and keeps perfect time is reported as a failed verification when the
exchange for the read-back takes 10 seconds to open. -/
theorem late_read_back_fails :
    (∃ tr, Exec (timekeeper reference 5 .matter) (syncOne reference Scenario.ctx 5 none).run
      (Scenario.freshHost.watch 5) tr (.done (synced lateReadBack).1) (synced lateReadBack).2) ∧
    ((synced lateReadBack).2.peers 5).setting = some (noonSetting noon) ∧
    ((synced lateReadBack).2.peers 5).readAt = some (afterNoon 10) ∧
    ¬ Succeeded (synced lateReadBack).1 :=
  ⟨exec_synced _, by decide +kernel, by decide +kernel, by decide +kernel⟩

/-! ## From the sampling to the write -/

/-- The host's clock: nanoseconds since the Matter epoch. -/
def hostClock (t : Timestamp) : Int := t.nanos - matterEpochUnixMicros * 1000

/-- At `t`, the device's clock differs from the host's by at most the tolerance. -/
def RightAt (s : ClockSetting) (t : Timestamp) : Prop :=
  ((s.clock t - hostClock t).natAbs : Int) ≤ verifyToleranceMicros * 1000

/-- The value arrives in time: at most the tolerance after the microsecond in which the host read its
clock (or after the Matter epoch, when that was before it). -/
def AppliedInTime (s : ClockSetting) : Prop :=
  let written := max matterEpochUnixMicros s.sampled.asMicrosecond
  ((s.applied.nanos - written * 1000).natAbs : Int) ≤ verifyToleranceMicros * 1000

theorem rightAt_iff {s : ClockSetting} (value : s.value = .fromTimestamp s.sampled) (t : Timestamp) :
    RightAt s t ↔ AppliedInTime s := by
  have hmicros := MatterMicros.fromTimestamp_micros s.sampled
  rw [← value] at hmicros
  unfold RightAt AppliedInTime ClockSetting.clock hostClock
  omega

/-- **When a successful sync leaves the device right.**  In every automatic sync that succeeds, the
device's clock agrees with the host's when it is read back exactly when the value arrived in time. -/
theorem successful_sync_right_iff {w w' : World} {tr : List (Event (timekeeper ext nodeId epoch))}
    {result : Except Failure SyncOutcome}
    (run : Exec (timekeeper ext nodeId epoch) (syncOne ext ctx nodeId none).run
      (w.watch nodeId) tr (.done result) w')
    (success : Succeeded result) :
    ∃ s r, (w'.peers nodeId).setting = some s ∧ (w'.peers nodeId).readAt = some r ∧
      (RightAt s r ↔ AppliedInTime s) := by
  have hend := (syncOne_clock w).result run
  rcases hend with ⟨hnot, -⟩ | ⟨s, r, v, h, -⟩
  · exact absurd success hnot
  · exact ⟨s, r, h.setting, h.readAt, rightAt_iff h.value r⟩

end Clock

/-- Between the first read of the clock and its setting, exchanges take 10 seconds to open. -/
def lateWrite : Scenario where
  dialSecs peer := if peer.readAt.isSome && peer.setting.isNone then 10 else 0

theorem late_write_right_iff : ∃ s r, ((synced lateWrite).2.peers 5).setting = some s ∧
    ((synced lateWrite).2.peers 5).readAt = some r ∧ (RightAt s r ↔ AppliedInTime s) := by
  obtain ⟨tr, run⟩ := exec_synced lateWrite
  exact successful_sync_right_iff run (by decide +kernel)

/-- An automatic sync succeeds although it leaves the device 10 seconds behind, when the exchange for
the write takes 10 seconds to open. -/
theorem late_write_wrong :
    (∃ tr, Exec (timekeeper reference 5 .matter) (syncOne reference Scenario.ctx 5 none).run
      (Scenario.freshHost.watch 5) tr (.done (synced lateWrite).1) (synced lateWrite).2) ∧
    Succeeded (synced lateWrite).1 ∧
    ((synced lateWrite).2.peers 5).setting = some (noonSetting (afterNoon 10)) ∧
    ((synced lateWrite).2.peers 5).readAt = some (afterNoon 10) ∧
    ¬ RightAt (noonSetting (afterNoon 10)) (afterNoon 10) :=
  ⟨exec_synced _, by decide +kernel, by decide +kernel, by decide +kernel,
    by unfold RightAt; decide⟩

end MatterTimeCtl
