/-
# MatterTimeCtl.Wire.TimeSource — what the clock of a device is ever set to.

"Fail safe: never push time from a clock that is not NTP-disciplined."  Only a sync sets clocks.  Without `--time` it
sets them to its last look at the host's clock, and not before the host has said that its clock is synchronized; with
it, to the one instant that the wall clock time asks for on the day that it was when the run began.  The rules of the
zone that it gives a device are those from one of its looks at the clock on.
-/
import MatterTimeCtl.Storage.Interleaving
import MatterTimeCtl.Wire.OffWire

namespace MatterTimeCtl

open Files Effect

/-! ## What a run has seen of the time -/

/-- What the answers of a run have said about the time so far. -/
structure TimeSeen where
  /-- The host has said that its clock is synchronized. -/
  trusted : Bool := false
  /-- What the clock was read as, time after time. -/
  readings : List Timestamp := []

/-- What a clock was read as. -/
def clockReading : Entry Call.Answer → Option Timestamp
  | ⟨.now, now⟩ => some now
  | _ => none

/-- The host says that its clock is synchronized. -/
def vouches : Entry Call.Answer → Bool
  | ⟨.ntpSynchronized, answer⟩ => answer
  | _ => false

/-- What a log shows of the time. -/
def timeSeen (log : List (Entry Call.Answer)) : TimeSeen where
  trusted := log.any vouches
  readings := log.filterMap clockReading

/-- One more call. -/
def TimeSeen.see (seen : TimeSeen) (c : Call) (a : c.Answer) : TimeSeen := match c, a with
  | .now, now => { seen with readings := seen.readings ++ [now] }
  | .ntpSynchronized, answer => { seen with trusted := seen.trusted || answer }
  | _, _ => seen

/-- What a sync may set a clock to, by its `--time`. -/
def TimeSeen.Dates (ext : Externals) (config : Config) (seen : TimeSeen) (value : MatterMicros) :
    Option String → Prop
  | none => seen.trusted = true ∧ ∃ now, seen.readings.getLast? = some now ∧ value = .fromTimestamp now
  | some raw => ∃ wall now instant, parseWallClock raw = .ok wall ∧ seen.readings.head? = some now ∧
      ext.civilToZoned config.timeZone (wall.on (config.timeZone.localDay now)) = .ok instant ∧
      value = .fromTimestamp instant

/-- What a command may ask of a device, as far as it is about the time. -/
def TimeSeen.Allows (ext : Externals) (config : Config) (seen : TimeSeen) : Command → Request → Prop
  | .sync _ time, .setUtcTime value => seen.Dates ext config value time
  | .sync _ _, .setTimeZone entries =>
    ∃ now ∈ seen.readings, entries = buildTimeZoneList config.timeZone config.timezone now
  | .sync _ _, .setDstOffset entries =>
    ∃ now ∈ seen.readings, ∃ capacity : UInt8, entries = buildDstOffsetList config.timeZone capacity.toNat now
  | _, .setUtcTime _ | _, .setTimeZone _ | _, .setDstOffset _ => False
  | _, _ => True

/-- **The fail-safe.** -/
def failSafe (ext : Externals) (config : Config) (command : Command) : Monitor Call Call.Answer TimeSeen where
  may seen
    | .wire _ r => seen.Allows ext config command r
    | _ => True
  see := TimeSeen.see

/-- The monitor keeps up with the log. -/
theorem failSafe_after (ext : Externals) (config : Config) (command : Command) (log : List (Entry Call.Answer)) :
    (failSafe ext config command).after {} log = timeSeen log := by
  induction log using List.reverseRecOn with
  | nil => rfl
  | append_singleton log e ih =>
      obtain ⟨c, a⟩ := e
      rw [Monitor.after_concat, ih]
      cases c with
      | now => simp [failSafe, TimeSeen.see, timeSeen, clockReading, vouches, List.filterMap_append]
      | ntpSynchronized => simp [failSafe, TimeSeen.see, timeSeen, clockReading, vouches, List.filterMap_append]
      | _ => simp [failSafe, TimeSeen.see, timeSeen, clockReading, vouches, List.filterMap_append]

/-! ## Parts that leave the time alone -/

/-- Requests that give a device no time. -/
def LeavesTime : Request → Prop
  | .setUtcTime _ | .setTimeZone _ | .setDstOffset _ => False
  | _ => True

/-- Calls that give a device no time. -/
def SetsNothing : Call → Prop
  | .wire _ r => LeavesTime r
  | _ => True

theorem OffWire.setsNothing {c : Call} (hc : OffWire c) : SetsNothing c := by
  cases c with
  | wire n r => exact hc.elim
  | _ => trivial

theorem setsNothing_offWire {α : Type} {p : Prog α} (hp : p.Uses OffWire) : p.Uses SetsNothing :=
  hp.mono fun _ => OffWire.setsNothing

theorem setsNothing_talk {α : Type} {p : Prog α} (hp : p.Uses (Talks LeavesTime)) : p.Uses SetsNothing :=
  hp.mono fun c hc => by
    cases c with
    | wire n r => exact hc
    | _ => trivial

/-- What was seen stays seen. -/
structure TimeSeen.Kept (seen seen' : TimeSeen) : Prop where
  trusted : seen.trusted = true → seen'.trusted = true
  readings : seen.readings <+: seen'.readings

theorem kept_see (seen : TimeSeen) (c : Call) (a : c.Answer) : seen.Kept (seen.see c a) := by
  cases c with
  | now => exact ⟨id, List.prefix_append ..⟩
  | ntpSynchronized => exact ⟨fun h => by simp only [TimeSeen.see, h, Bool.true_or], List.prefix_rfl⟩
  | _ => exact ⟨id, List.prefix_rfl⟩

theorem TimeSeen.Kept.head {seen seen' : TimeSeen} (h : seen.Kept seen') {now : Timestamp}
    (first : seen.readings.head? = some now) : seen'.readings.head? = some now := by
  obtain ⟨later, hlater⟩ := h.readings
  rw [← hlater, List.head?_append, first]
  rfl

/-- What stays true while more is seen. -/
def Lasting (I : TimeSeen → Prop) : Prop := ∀ seen seen', I seen → seen.Kept seen' → I seen'

section Parts

variable {ext : Externals} {config : Config} {command : Command} {I : TimeSeen → Prop} {seen : TimeSeen}
  {α β : Type}

theorem failSafe_may {c : Call} (hc : SetsNothing c) (seen : TimeSeen) :
    (failSafe ext config command).may seen c := by
  cases c with
  | wire n r =>
      cases r with
      | setUtcTime _ | setTimeZone _ | setDstOffset _ => exact hc.elim
      | _ => cases command <;> trivial
  | _ => trivial

/-- A part that gives no time. -/
theorem Lasting.rest (lasting : Lasting I) {p : Prog α} (h : I seen) (hp : p.Uses SetsNothing) :
    Heeds (failSafe ext config command) p (fun _ => I) seen :=
  Heeds.of_keeps hp (fun c seen hc h => ⟨failSafe_may hc seen, fun a => lasting _ _ h (kept_see seen c a)⟩) h

/-- It, before something else. -/
theorem Lasting.part (lasting : Lasting I) {x : Action α} {f : α → Action β} (h : I seen)
    (hx : x.run.Uses SetsNothing)
    (hf : ∀ a seen, I seen → Heeds (failSafe ext config command) (f a).run (fun _ => I) seen) :
    Heeds (failSafe ext config command) (x >>= f).run (fun _ => I) seen :=
  (lasting.rest h hx).run_bind (fun a seen h => hf a seen h) fun _ _ h => h

end Parts

/-! ## A sync -/

/-- The gate was passed, with the instant of `--time` or with a trusted clock. -/
inductive Passed (ext : Externals) (config : Config) (seen : TimeSeen) :
    Option String → Option MatterMicros → Prop where
  | automatic (trusted : seen.trusted = true) : Passed ext config seen none none
  | manual {raw : String} {value : MatterMicros} (dates : seen.Dates ext config value (some raw)) :
      Passed ext config seen (some raw) (some value)

theorem lasting_passed {ext : Externals} {config : Config} {time : Option String}
    {manualTime : Option MatterMicros} : Lasting fun seen => Passed ext config seen time manualTime := by
  intro seen seen' h kept
  cases h with
  | automatic trusted => exact .automatic (kept.trusted trusted)
  | manual dates =>
      obtain ⟨wall, now, instant, parsed, first, placed, rfl⟩ := dates
      exact .manual ⟨wall, now, instant, parsed, kept.head first, placed, rfl⟩

/-- It was passed, and the clock was read as this. -/
structure Read (ext : Externals) (config : Config) (time : Option String) (manualTime : Option MatterMicros)
    (nowTs : Timestamp) (seen : TimeSeen) : Prop where
  passed : Passed ext config seen time manualTime
  read : nowTs ∈ seen.readings

section Sync

variable {ext : Externals} {ctx : Ctx} {target : Option NodeId} {time : Option String}
  {manualTime : Option MatterMicros} {nowTs : Timestamp} {seen : TimeSeen} {α β : Type}

theorem lasting_read {config : Config} : Lasting (Read ext config time manualTime nowTs) := fun _ _ h kept =>
  ⟨lasting_passed _ _ h.passed kept, kept.readings.subset h.read⟩

/-- Dialing takes no look at the clock. -/
theorem heeds_giving {I : TimeSeen → Prop} (lasting : Lasting I) (h : I seen) {nodeId : NodeId} {r : Request}
    (allows : seen.Allows ext ctx.config (.sync target time) r) (what : String) :
    Heeds (failSafe ext ctx.config (.sync target time)) (request ext ctx nodeId r what).run (fun _ => I) seen := by
  have dials : Heeds (failSafe ext ctx.config (.sync target time)) (connect ext ctx nodeId).run
      (fun _ seen' => seen' = seen) seen := by
    refine Heeds.of_uses (dials_connect ext ctx nodeId) fun c hc => ?_
    cases c with
    | log _ _ => exact ⟨trivial, fun _ => rfl⟩
    | sleep _ => exact ⟨trivial, fun _ => rfl⟩
    | timed _ _ => exact ⟨trivial, fun _ => rfl⟩
    | _ => exact hc.elim
  refine dials.run_bind (fun exchange seen' same => ?_) fun _ _ same => same ▸ h
  subst same
  rw [Effect.run_bind, run_ask, Program.call_bind, heeds_call]
  refine ⟨allows, fun reply => lasting.rest (lasting _ _ h ?_) (uses_orFail _ _)⟩
  exact kept_see seen' (.wire exchange r) reply

/-- The value that is written is one that may be. -/
theorem Read.utcToWrite (h : Read ext ctx.config time manualTime nowTs seen) :
    Heeds (failSafe ext ctx.config (.sync target time)) (MatterTimeCtl.utcToWrite manualTime).run (fun r seen' =>
      Read ext ctx.config time manualTime nowTs seen' ∧
        ∀ value, r = .ok value → seen'.Dates ext ctx.config value time) seen := by
  obtain ⟨passed, read⟩ := h
  cases passed with
  | automatic trusted =>
      unfold MatterTimeCtl.utcToWrite matterNow
      rw [Effect.run_bind, run_ask, Program.call_bind, heeds_call]
      refine ⟨trivial, fun now => heeds_done.mpr ⟨⟨.automatic trusted, ?_⟩, fun value hvalue => ?_⟩⟩
      · exact List.mem_append_left _ read
      · cases hvalue
        exact ⟨trusted, now, List.getLast?_concat, rfl⟩
  | manual dates =>
      refine heeds_done.mpr ⟨⟨.manual dates, read⟩, fun value hvalue => ?_⟩
      cases hvalue
      exact dates

/-- The rules of the zone are those from that look at the clock on. -/
theorem Read.writeZoneAndDst (h : Read ext ctx.config time manualTime nowTs seen) (nodeId : NodeId) :
    Heeds (failSafe ext ctx.config (.sync target time))
      (MatterTimeCtl.writeZoneAndDst ext ctx nodeId ctx.config.timeZone nowTs).run
      (fun _ => Read ext ctx.config time manualTime nowTs) seen := by
  have zone : seen.Allows ext ctx.config (.sync target time)
      (.setTimeZone (buildTimeZoneList ctx.config.timeZone ctx.config.timezone nowTs)) := ⟨nowTs, h.read, rfl⟩
  refine (heeds_giving lasting_read h zone _).run_bind (fun response s₁ h₁ => ?_) fun _ _ h => h
  refine lasting_read.part h₁ (setsNothing_talk (talk_complete nodeId _ trivial)) fun _ s₂ h₂ => ?_
  split
  · exact lasting_read.rest h₂ (uses_run_pure _)
  · refine lasting_read.part h₂ (setsNothing_talk (talk_request ext ctx nodeId _ _ trivial)) fun size s₃ h₃ => ?_
    have dst : s₃.Allows ext ctx.config (.sync target time)
        (.setDstOffset (buildDstOffsetList ctx.config.timeZone size.toNat nowTs)) := ⟨nowTs, h₃.read, size, rfl⟩
    exact (heeds_giving lasting_read h₃ dst _).run_bind
      (fun _ _ h => lasting_read.rest h (uses_run_pure _)) fun _ _ h => h

variable (ctx) (nodeId : NodeId)

theorem heeds_syncOne (h : Passed ext ctx.config seen time manualTime) :
    Heeds (failSafe ext ctx.config (.sync target time)) (syncOne ext ctx nodeId manualTime).run
      (fun _ seen => Passed ext ctx.config seen time manualTime) seen := by
  unfold syncOne
  rw [Effect.run_bind, run_ask, Program.call_bind, heeds_call]
  refine ⟨trivial, fun nowTs => ?_⟩
  -- from here on the clock has been read as `nowTs`
  have read : Read ext ctx.config time manualTime nowTs (seen.see .now nowTs) :=
    ⟨lasting_passed _ _ h (kept_see ..), List.mem_append_right _ (List.mem_singleton_self _)⟩
  refine Heeds.mono ?_ fun _ _ (h : Read ext ctx.config time manualTime nowTs _) => h.passed
  refine lasting_read.part read (setsNothing_talk (talk_readFeatureMap ext ctx nodeId trivial))
    fun featureMap s₁ h₁ => ?_
  cases featureMap with
  | none => exact lasting_read.rest h₁ (uses_run_pure _)
  | some featureMap =>
      refine lasting_read.part h₁ (setsNothing_talk (talk_request ext ctx nodeId _ _ trivial)) fun _ s₂ h₂ =>
        lasting_read.part h₂ (setsNothing_talk talk_matterNow) fun _ s₃ h₃ => ?_
      refine h₃.utcToWrite.run_bind (fun value s₄ h₄ => ?_) fun _ _ h => h.1
      obtain ⟨h₄, dates⟩ := h₄
      have clock : Heeds (failSafe ext ctx.config (.sync target time))
          (writeClock ext ctx nodeId (featureMap &&& featureTimeZone ≠ 0) value nowTs).run
          (fun _ => Read ext ctx.config time manualTime nowTs) s₄ := by
        have allows : s₄.Allows ext ctx.config (.sync target time) (.setUtcTime value) := dates value rfl
        refine (heeds_giving lasting_read h₄ allows _).run_bind (fun _ s₅ h₅ => ?_) fun _ _ h => h
        split
        · exact h₅.writeZoneAndDst nodeId
        · exact lasting_read.rest h₅ (uses_run_pure _)
      refine clock.run_bind (fun (_, _) s₅ h₅ => ?_) fun _ _ h => h
      exact lasting_read.part h₅ (setsNothing_talk (talk_verifyClock ext ctx nodeId value trivial)) fun _ s₆ h₆ =>
        lasting_read.part h₆ (setsNothing_talk (talk_ensureFabricLabel ext ctx nodeId trivial (fun _ => trivial)
          trivial)) fun _ s₇ h₇ => lasting_read.rest h₇ (uses_run_pure _)

theorem heeds_sync (targets : List NodeId) (h : Passed ext ctx.config seen time manualTime) :
    Heeds (failSafe ext ctx.config (.sync target time)) (SyncOp.run ext ctx manualTime targets).run
      (fun _ seen => Passed ext ctx.config seen time manualTime) seen := by
  induction targets generalizing seen with
  | nil => exact lasting_passed.rest h (uses_run_pure _)
  | cons nodeId targets ih =>
      unfold SyncOp.run SyncOp.step
      simp only [bind_assoc]
      refine lasting_passed.part h (setsNothing_offWire (offWire_noteAttempt ext nodeId)) fun _ s₁ h₁ => ?_
      rw [run_attempt_bind, heeds_bind]
      refine (heeds_syncOne ctx nodeId h₁).mono fun r s₂ h₂ => ?_
      refine lasting_passed.part h₂ (setsNothing_offWire (offWire_noteOutcome ext nodeId _)) fun _ s₃ h₃ =>
        lasting_passed.part h₃ (setsNothing_offWire (offWire_logOutcome nodeId _)) fun _ s₄ h₄ => ?_
      rw [pure_bind]
      exact (ih h₄).run_bind (fun _ _ h => lasting_passed.rest h (uses_run_pure _)) fun _ _ h => h

end Sync

/-! ## Before the operation -/

section Gate

variable {ext : Externals} {config : Config} {target : Option NodeId} {time : Option String}

/-- The instant of `--time` is placed on the day of the first look at the clock. -/
theorem heeds_manualInstant (raw : String) :
    Heeds (failSafe ext config (.sync target (some raw))) (manualInstant ext config raw).run (fun r seen =>
      ∀ value, r = .ok value → seen.Dates ext config value (some raw)) {} := by
  unfold manualInstant
  cases parsed : parseWallClock raw with
  | error e => exact heeds_done.mpr fun _ => error_ne_ok
  | ok wall =>
      show Heeds _ (ask .now >>= _).run _ _
      rw [Effect.run_bind, run_ask, Program.call_bind, heeds_call]
      refine ⟨trivial, fun now => ?_⟩
      dsimp only [Program.done_bind, continueWith_ok]
      cases placed : ext.civilToZoned config.timeZone (wall.on (config.timeZone.localDay now)) with
      | error e => exact heeds_done.mpr fun _ => error_ne_ok
      | ok instant =>
          refine heeds_done.mpr fun value hvalue => ?_
          cases hvalue
          exact ⟨wall, now, instant, parsed, rfl, placed, rfl⟩

theorem heeds_manualTimeOf : Heeds (failSafe ext config (.sync target time)) (manualTimeOf ext config time).run
    (fun r seen => ∀ manualTime, r = .ok manualTime →
      (time = none ∧ manualTime = none) ∨ Passed ext config seen time manualTime) {} := by
  cases time with
  | none =>
      refine heeds_done.mpr fun manualTime hm => ?_
      cases hm
      exact .inl ⟨rfl, rfl⟩
  | some raw =>
      show Heeds _ (some <$> manualInstant ext config raw).run _ _
      rw [← bind_pure_comp]
      refine (heeds_manualInstant raw).run_bind (fun value seen dates => ?_) fun _ _ _ _ => error_ne_ok
      refine heeds_done.mpr fun manualTime hm => ?_
      cases hm
      exact .inr (.manual (dates value rfl))

end Gate

/-! ## Commands -/

section Commands

variable (ext : Externals) (config : Config)

/-- Nothing needs to be kept of what was seen. -/
theorem lasting_true : Lasting fun _ => True := fun _ _ _ _ => trivial

theorem failSafe_run {command : Command} (op : Op) (harmless : ∀ ctx, (runOp ext ctx op).run.Uses SetsNothing)
    (seen : TimeSeen) : Heeds (failSafe ext config command) (run ext config op).run (fun _ _ => True) seen :=
  heeds_run (fun _ seen hc _ => ⟨failSafe_may hc.setsNothing seen, fun _ => trivial⟩) trivial op
    fun _ _ _ _ _ => lasting_true.rest trivial (harmless _)

/-- **A sync is fail-safe.** -/
theorem failSafe_sync (target : Option NodeId) (time : Option String) :
    Heeds (failSafe ext config (.sync target time)) (runSync ext config target time).run (fun _ _ => True) {} := by
  refine heeds_manualTimeOf.run_bind (fun manualTime seen looked => ?_) fun _ _ _ => trivial
  rw [Effect.run_bind, run_ask, Program.call_bind, heeds_call]
  refine ⟨trivial, fun ntp => ?_⟩
  dsimp only [Program.done_bind, continueWith_ok]
  split
  · exact lasting_true.rest trivial (uses_run_bind (uses_ask (c := .log .warn _) trivial) fun _ => uses_run_pure _)
  · have passed : Passed ext config (seen.see .ntpSynchronized ntp) time manualTime := by
      rcases looked manualTime rfl with ⟨rfl, rfl⟩ | passed
      · refine .automatic ?_
        simp_all [TimeSeen.see]
      · exact lasting_passed _ _ passed (kept_see _ _ _)
    refine (lasting_passed.part passed (setsNothing_offWire ((looks_resolve ext target).mono fun _ => Looks.offWire))
      (fun targets seen passed => ?_)).mono fun _ _ _ => trivial
    refine Heeds.run_bind (R := fun _ seen => Passed ext config seen time manualTime) ?_
      (fun nodes seen passed => lasting_passed.rest passed (uses_run_pure _)) fun _ _ passed => passed
    exact heeds_run (I := fun seen => Passed ext config seen time manualTime)
      (fun c seen hc passed =>
        ⟨failSafe_may hc.setsNothing seen, fun a => lasting_passed _ _ passed (kept_see seen c a)⟩)
      passed _ fun fabrics fabIdx identity _ passed => heeds_sync { fabrics, fabIdx, identity, config } targets passed

/-- The other commands set no clock. -/
theorem setsNothing_decommission (ctx : Ctx) (targets : List NodeId) :
    (DecommissionOp.run ext ctx targets).run.Uses SetsNothing := by
  induction targets with
  | nil => exact uses_run_pure _
  | cons nodeId targets ih =>
      refine uses_run_bind (uses_run_bind (uses_attempt ?_) fun r => ?_) fun _ => uses_run_bind ih fun _ =>
        uses_run_pure _
      · refine setsNothing_talk
          (uses_run_bind (talk_readOurFabricEntry ext ctx nodeId trivial) fun (_, ourIndex) => ?_)
        cases ourIndex with
        | none => exact uses_run_throw _
        | some _ =>
            exact uses_run_bind (talk_request ext ctx nodeId _ _ trivial) fun _ => talk_complete nodeId _ trivial
      · cases r with
        | ok _ => exact uses_run_bind (setsNothing_offWire (offWire_removeDevice ext nodeId)) fun _ => uses_run_pure _
        | error _ => exact uses_run_bind (uses_ask trivial) fun _ => uses_run_pure _

theorem setsNothing_inspect (ctx : Ctx) (targets : List NodeId) :
    (InspectOp.run ext ctx targets).run.Uses SetsNothing := by
  induction targets with
  | nil => exact uses_run_pure _
  | cons nodeId targets ih =>
      refine uses_run_bind (uses_run_bind (uses_attempt ?_) fun r => ?_) fun _ => uses_run_bind ih fun _ =>
        uses_run_pure _
      · exact setsNothing_talk (uses_run_bind (talk_readDeviceNames ext ctx nodeId trivial trivial) fun (_, _) =>
          uses_run_bind (talk_request ext ctx nodeId _ _ trivial) fun _ =>
          uses_run_bind (talk_request ext ctx nodeId _ _ trivial) fun _ =>
          uses_run_bind (talk_request ext ctx nodeId _ _ trivial) fun _ =>
          uses_run_bind (talk_readDstMax ext ctx nodeId _ trivial) fun _ =>
          uses_run_bind (talk_readOurFabricEntry ext ctx nodeId trivial) fun (_, _) => uses_run_pure _)
      · cases r with
        | ok _ => exact uses_run_pure _
        | error _ => exact uses_run_bind (uses_ask trivial) fun _ => uses_run_pure _

theorem setsNothing_commission (ctx : Ctx) (onboarding : Onboarding) :
    (CommissionOp.run ext ctx onboarding).run.Uses SetsNothing :=
  uses_run_bind (setsNothing_offWire (offWire_join ctx onboarding)) fun nodeId =>
    uses_run_bind (setsNothing_talk (talk_readDeviceNames ext ctx nodeId trivial trivial)) fun (_, _) =>
    setsNothing_offWire (uses_run_bind (offWire_updateDevice ext nodeId fun _ =>
      uses_run_bind (uses_ask (c := .now) trivial) fun _ => uses_run_pure _) fun _ =>
        uses_run_bind (offWire_store _ _ _) fun _ => uses_run_pure _)

/-- **Every command is fail-safe.** -/
theorem failSafe_command (command : Command) :
    Heeds (failSafe ext config command) (runCommand ext config command).run (fun _ _ => True) {} := by
  have idle : ∀ {α : Type} {p : Prog α} seen, p.Uses OffWire →
      Heeds (failSafe ext config command) p (fun _ _ => True) seen :=
    fun seen hp => lasting_true.rest trivial (setsNothing_offWire hp)
  cases command with
  | status filter => exact idle _ ((looks_status ext config filter).mono fun _ => Looks.offWire)
  | sync target time => exact failSafe_sync ext config target time
  | commission onboarding =>
      exact (failSafe_run ext config (.commission onboarding)
        (fun ctx => setsNothing_commission ext ctx onboarding) _).run_bind
        (fun _ seen _ => idle seen (uses_run_pure _)) fun _ _ _ => trivial
  | decommission target =>
      refine (idle _ ((looks_resolve ext target).mono fun _ => Looks.offWire)).run_bind (fun targets seen _ => ?_)
        fun _ _ _ => trivial
      exact (failSafe_run ext config (.decommission targets)
        (fun ctx => setsNothing_decommission ext ctx targets) _).run_bind
        (fun _ seen _ => idle seen (uses_run_bind ((looks_loadOrDefault ext _).mono fun _ => Looks.offWire) fun _ =>
          uses_run_pure _)) fun _ _ _ => trivial
  | inspect target =>
      refine (idle _ ((looks_resolveOrEmpty ext target).mono fun _ => Looks.offWire)).run_bind
        (fun targets seen _ => ?_) fun _ _ _ => trivial
      split
      · exact idle seen (uses_run_pure _)
      · exact (failSafe_run ext config (.inspect targets) (fun ctx => setsNothing_inspect ext ctx targets) _).run_bind
          (fun _ seen _ => idle seen (uses_run_pure _)) fun _ _ _ => trivial

/-- **The time comes from a trusted clock**: whenever a command asks a device for something, whatever it is answered,
what it has seen of the time by then allows the request. -/
theorem time_is_sourced (command : Command) {log pre post : List (Entry Call.Answer)}
    {q : Prog (Except Failure Output)} (path : (runCommand ext config command).run.Path log q) {nodeId : NodeId}
    {r : Request} {a : (Call.wire nodeId r).Answer} (asks : log = pre ++ ⟨.wire nodeId r, a⟩ :: post) :
    (timeSeen pre).Allows ext config command r := by
  have accepts := (failSafe_command ext config command).accepts path
  rw [asks] at accepts
  rw [← failSafe_after ext config command pre]
  exact accepts.may

end Commands

/-! ### A sync that sets a clock -/

section Sets

open Scenario

variable {α β : Type} {s : Scenario} {w v : World}

/-- A clock is set. -/
def setsClock : Entry Call.Answer → Bool
  | ⟨.wire _ (.setUtcTime _), _⟩ => true
  | _ => false

/-- The program may come to set a clock. -/
def MaySet (p : Prog α) : Prop := ∃ log q, p.Path log q ∧ log.any setsClock = true

theorem MaySet.bind {p : Prog α} (h : MaySet p) (f : α → Prog β) : MaySet (p >>= f) := by
  obtain ⟨log, q, path, sets⟩ := h
  exact ⟨log, _, path.bind f, sets⟩

theorem MaySet.run_bind {x : Action α} (h : MaySet x.run) (f : α → Action β) : MaySet (x >>= f).run := by
  rw [Effect.run_bind]
  exact h.bind _

/-- After a part that ends. -/
theorem MaySet.after {x : Action α} {f : α → Action β} {a : α} (hx : s.Ends x w (.ok a) v)
    (hf : MaySet (f a).run) : MaySet (x >>= f).run := by
  obtain ⟨w', hplay, -⟩ := hx
  obtain ⟨log, q, path, sets⟩ := hf
  have ended := (s.script.exec x.run w).path.bind (continueWith fun a => (f a).run)
  rw [hplay] at ended
  rw [Effect.run_bind]
  exact ⟨_, q, ended.append path, by rw [List.any_append, sets, Bool.or_true]⟩

theorem maySet_syncOne : MaySet (syncOne reference Scenario.ctx 1 none).run :=
  ⟨_, _, (({} : Scenario).script.exec _ freshHost).path, by decide +kernel⟩

theorem maySet_sync : MaySet (runCommand reference Scenario.config (.sync none none)).run := by
  change MaySet (manualTimeOf reference Scenario.config none >>= _).run
  refine MaySet.after (s := {}) (w := freshHost) (Ends.pure none _) ?_
  refine MaySet.after (s := {}) (w := freshHost) (a := true) (.of_eq rfl) ?_
  refine MaySet.after (s := {}) (w := oneDevice) (ends_resolve (registry_oneDevice (.refl _)) nodeIds_oneRecord)
    (MaySet.run_bind ?_ _)
  refine MaySet.after (s := {}) (w := freshHost) (ends_prepareStorageDir (.inl rfl)) ?_
  refine MaySet.after (s := {}) (ends_lockStorage _ freshHost) ?_
  rw [run_attempt_bind]
  refine MaySet.bind ?_ _
  rw [runLocked_eq]
  refine MaySet.after (s := {}) (w := oneDevice) (ends_setUp_found rfl established_oneDevice) ?_
  change MaySet (SyncOp.run reference Scenario.ctx none [1]).run
  unfold SyncOp.run SyncOp.step
  simp only [bind_assoc]
  refine MaySet.after (s := {}) (w := freshHost) (ends_updateDevice ⟨_, rfl, ⟨.refl _ _, rfl⟩, id⟩) ?_
  rw [run_attempt_bind]
  exact maySet_syncOne.bind _

/-- A sync of one device sets its clock. -/
theorem sync_is_sourced : ∃ pre nodeId value post q a,
    (runCommand reference Scenario.config (.sync none none)).run.Path
      (pre ++ ⟨.wire nodeId (.setUtcTime value), a⟩ :: post) q ∧
    (timeSeen pre).Allows reference Scenario.config (.sync none none) (.setUtcTime value) := by
  obtain ⟨log, q, path, sets⟩ := maySet_sync
  obtain ⟨⟨c, a⟩, hmem, hset⟩ := List.any_eq_true.mp sets
  obtain ⟨pre, post, rfl⟩ := List.append_of_mem hmem
  cases c with
  | wire n r =>
      cases r with
      | setUtcTime value =>
          exact ⟨pre, n, value, post, q, a, path, time_is_sourced reference Scenario.config _ path rfl⟩
      | _ => cases hset
  | _ => cases hset

end Sets

end MatterTimeCtl
