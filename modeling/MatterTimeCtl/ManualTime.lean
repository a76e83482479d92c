/-
# MatterTimeCtl.ManualTime — the instant of `sync --time`.

`manualInstant` takes the host's date in the zone, puts the wall clock on it, lets the time-zone library place
that civil time and converts the instant to Matter time.  Two of these steps give an instant where they
should fail: the conversion clamps an instant before the Matter epoch (the host clock is not checked
with `--time`), and the library moves a civil time that a change of the offset leaves out.
`manualInstant_right_iff` says that nothing else can go wrong.
-/
import MatterTimeCtl.Cli
import MatterTimeCtl.Scenario
import MatterTimeCtl.TzRefine

namespace MatterTimeCtl

open Effect

/-! ## There and back -/

/-- 2000-01-01T00:00:00Z. -/
def matterEpoch : Timestamp := ⟨matterEpochUnixSeconds * 1000000000, by decide, by decide⟩

/-- Whole seconds from the Matter epoch on survive the conversion to Matter time. -/
theorem toTimestamp_fromTimestamp (ext : Externals) {t : Timestamp} (since : t.SinceMatterEpoch)
    (whole : t.nanos % 1000000000 = 0) :
    (MatterMicros.fromTimestamp t).toTimestamp ext.fromMicrosecond = some t := by
  have hmicros := fromTimestamp_of_sinceEpoch since
  have hmax := t.le_max
  have hback : t.nanos = t.nanos / 1000 * 1000 := by omega
  unfold Timestamp.SinceMatterEpoch at since
  unfold maxNanos at hmax
  -- a whole second within the range is within that of the microseconds
  have hrange : minMicros ≤ t.nanos / 1000 ∧ t.nanos / 1000 ≤ maxMicros := by
    unfold minMicros maxMicros
    unfold matterEpochUnixSeconds at since
    omega
  unfold MatterMicros.toTimestamp i64TryFrom
  rw [hmicros]
  unfold matterEpochUnixMicros matterEpochUnixSeconds i64Min i64Max at *
  rw [if_pos (by omega), Option.bind_some, if_pos (by omega), Option.bind_some, Int.sub_add_cancel]
  exact ext.fromMicrosecond_eq_some hrange hback

/-- An earlier instant is clamped to the Matter epoch. -/
theorem toTimestamp_fromTimestamp_of_before (ext : Externals) {t : Timestamp}
    (before : ¬ t.SinceMatterEpoch) :
    (MatterMicros.fromTimestamp t).toTimestamp ext.fromMicrosecond = some matterEpoch := by
  have hmicros := MatterMicros.fromTimestamp_micros t
  have hzero : (MatterMicros.fromTimestamp t).micros = 0 := by
    unfold Timestamp.SinceMatterEpoch at before
    unfold matterEpochUnixMicros matterEpochUnixSeconds at *
    rcases lt_or_ge t.nanos 0 with hneg | hpos
    · have h := Timestamp.asMicrosecond_of_neg hneg
      omega
    · rw [Timestamp.asMicrosecond_of_nonneg hpos] at hmicros
      omega
  unfold MatterMicros.toTimestamp
  rw [hzero]
  exact ext.fromMicrosecond_eq_some (by decide) (by decide)

/-- Clocks show whole seconds, at instants that are whole seconds. -/
theorem TimeZone.Shows.whole {tz : TimeZone} {t : Timestamp} {civil : Int} (h : tz.Shows t civil) :
    t.nanos % 1000000000 = 0 := by
  unfold TimeZone.Shows at h
  omega

/-! ## Placing the wall clock -/

/-- What a program that looks at nothing but the clock returns when the host's clock shows `now`. -/
def atInstant {α : Type} (now : Timestamp) : Prog α → Option α
  | .done a => some a
  | .call .now next => atInstant now (next now)
  | .call _ _ => none

section Place

variable {ext : Externals}

/-- Placing the time that was parsed, on the date of `now`. -/
def placeInstant (ext : Externals) (config : Config) (raw : String) (wall : CivilTime) (now : Timestamp) :
    Action MatterMicros :=
  match ext.civilToZoned config.timeZone (wall.on (config.timeZone.localDay now)) with
  | .ok instant => return .fromTimestamp instant
  | .error e =>
    throw (.message ("cannot place " ++ ext.strDebug raw ++ " in " ++ config.timezone ++ ": " ++ e))

variable {config : Config} {raw : String} {wall : CivilTime} {now : Timestamp}

/-- With the time parsed, placing it takes one look at the clock. -/
theorem manualInstant_of_parsed (config : Config) (parsed : parseWallClock raw = .ok wall) :
    manualInstant ext config raw = ask .now >>= placeInstant ext config raw wall := by
  unfold manualInstant placeInstant
  rw [parsed]
  rfl

theorem placeInstant_placed {t : Timestamp}
    (placed : ext.civilToZoned config.timeZone (wall.on (config.timeZone.localDay now)) = .ok t) :
    placeInstant ext config raw wall now = pure (.fromTimestamp t) := by
  rw [placeInstant, placed]

theorem placeInstant_unplaced {e : String}
    (unplaced : ext.civilToZoned config.timeZone (wall.on (config.timeZone.localDay now)) = .error e) :
    placeInstant ext config raw wall now = throw (.message
      ("cannot place " ++ ext.strDebug raw ++ " in " ++ config.timezone ++ ": " ++ e)) := by
  rw [placeInstant, unplaced]

theorem atInstant_unparsed {e : WallClockError} (h : parseWallClock raw = .error e) :
    atInstant now (manualInstant ext config raw).run = some (.error (.message (e.display ext))) := by
  unfold manualInstant
  rw [h]
  rfl

theorem atInstant_parsed (parsed : parseWallClock raw = .ok wall) :
    atInstant now (manualInstant ext config raw).run =
      atInstant now (placeInstant ext config raw wall now).run := by
  rw [manualInstant_of_parsed config parsed, Effect.run_bind, run_ask, Program.call_bind, atInstant,
    Program.done_bind, continueWith_ok]

theorem atInstant_placed {t : Timestamp} (parsed : parseWallClock raw = .ok wall)
    (placed : ext.civilToZoned config.timeZone (wall.on (config.timeZone.localDay now)) = .ok t) :
    atInstant now (manualInstant ext config raw).run = some (.ok (.fromTimestamp t)) := by
  rw [atInstant_parsed parsed, placeInstant_placed placed]
  rfl

theorem atInstant_unplaced {e : String} (parsed : parseWallClock raw = .ok wall)
    (unplaced : ext.civilToZoned config.timeZone (wall.on (config.timeZone.localDay now)) = .error e) :
    atInstant now (manualInstant ext config raw).run = some (.error (.message
      ("cannot place " ++ ext.strDebug raw ++ " in " ++ config.timezone ++ ": " ++ e))) := by
  rw [atInstant_parsed parsed, placeInstant_unplaced unplaced]
  rfl

end Place

/-! ## The right instant -/

/-- The Matter time, as an instant again, shows the civil time. -/
def MatterMicros.ShownAs (ext : Externals) (m : MatterMicros) (tz : TimeZone) (civil : Int) : Prop :=
  ∃ t, m.toTimestamp ext.fromMicrosecond = some t ∧ tz.Shows t civil

/-- The civil time exists in the zone. -/
def TimeZone.HasCivil (tz : TimeZone) (civil : Int) : Prop := ∃ t, tz.Shows t civil

/-- The civil time that `raw` asks for on the host's current date. -/
def AsksFor (tz : TimeZone) (raw : String) (now : Timestamp) (civil : Int) : Prop :=
  ∃ wall, parseWallClock raw = .ok wall ∧ civil = wall.on (tz.localDay now)

theorem AsksFor.unique {tz : TimeZone} {raw : String} {now : Timestamp} {civil civil' : Int}
    (h : AsksFor tz raw now civil) (h' : AsksFor tz raw now civil') : civil = civil' := by
  obtain ⟨wall, parsed, rfl⟩ := h
  obtain ⟨wall', parsed', rfl⟩ := h'
  rw [parsed] at parsed'
  cases parsed'
  rfl

/-- What the result for the wall clock `raw` should be: an instant that shows it on the host's date, if it
exists then, and otherwise an error. -/
structure RightInstant (ext : Externals) (tz : TimeZone) (raw : String) (now : Timestamp)
    (r : Except Failure MatterMicros) : Prop where
  shown : ∀ civil, AsksFor tz raw now civil → tz.HasCivil civil → ∃ m, r = .ok m ∧ m.ShownAs ext tz civil
  refused : (∀ civil, AsksFor tz raw now civil → ¬ tz.HasCivil civil) → ∃ e, r = .error e

/-- Where the library places the civil time asked for, it exists, and not before the Matter epoch (or at the
epoch clocks show it again). -/
def PlacedWithinEpoch (ext : Externals) (tz : TimeZone) (raw : String) (now : Timestamp) : Prop :=
  ∀ civil t, AsksFor tz raw now civil → ext.civilToZoned tz civil = .ok t →
    tz.HasCivil civil ∧ (t.SinceMatterEpoch ∨ tz.Shows matterEpoch civil)

theorem shownAs_iff {ext : Externals} {tz : TimeZone} {t : Timestamp} {civil : Int}
    (shows : tz.Shows t civil) : (MatterMicros.fromTimestamp t).ShownAs ext tz civil ↔
      t.SinceMatterEpoch ∨ tz.Shows matterEpoch civil := by
  unfold MatterMicros.ShownAs
  by_cases since : t.SinceMatterEpoch
  · rw [toTimestamp_fromTimestamp ext since shows.whole]
    simp only [Option.some.injEq, exists_eq_left', since, shows, true_or]
  · rw [toTimestamp_fromTimestamp_of_before ext since]
    simp only [Option.some.injEq, exists_eq_left', since, false_or]

/-- **The instant of `sync --time` is the one asked for**, or there is an error, exactly when the library places
only civil times that exist, and none before the Matter epoch. -/
theorem manualInstant_right_iff (ext : Externals) (config : Config) (raw : String) (now : Timestamp) :
    (∃ r, atInstant now (manualInstant ext config raw).run = some r ∧
      RightInstant ext config.timeZone raw now r) ↔
    PlacedWithinEpoch ext config.timeZone raw now := by
  -- the two conditions are about a time that is parsed and placed; where it is not, both hold
  cases parsed : parseWallClock raw with
  | error e =>
      have unasked : ∀ civil, ¬ AsksFor config.timeZone raw now civil := by
        rintro civil ⟨wall, parsed', -⟩
        rw [parsed] at parsed'
        cases parsed'
      rw [atInstant_unparsed parsed]
      constructor
      · intro _ civil t asked
        exact absurd asked (unasked civil)
      · intro _
        exact ⟨_, rfl, fun civil asked => absurd asked (unasked civil), fun _ => ⟨_, rfl⟩⟩
  | ok wall =>
      have asked : AsksFor config.timeZone raw now (wall.on (config.timeZone.localDay now)) :=
        ⟨wall, parsed, rfl⟩
      cases placed : ext.civilToZoned config.timeZone (wall.on (config.timeZone.localDay now)) with
      | error e =>
          -- a time that is not placed is one that the zone skips
          have missing : ¬ config.timeZone.HasCivil (wall.on (config.timeZone.localDay now)) := by
            intro exists_
            obtain ⟨t, placed', -⟩ := ext.civilToZoned_shows exists_
            rw [placed] at placed'
            cases placed'
          rw [atInstant_unplaced parsed placed]
          constructor
          · intro _ civil t asked' placed'
            rw [asked'.unique asked, placed] at placed'
            cases placed'
          · intro _
            refine ⟨_, rfl, fun civil asked' exists_ => ?_, fun _ => ⟨_, rfl⟩⟩
            rw [asked'.unique asked] at exists_
            exact absurd exists_ missing
      | ok t =>
          rw [atInstant_placed parsed placed]
          constructor
          · rintro ⟨r, hr, right⟩ civil t' asked' placed'
            cases hr
            obtain rfl := asked'.unique asked
            rw [placed] at placed'
            cases placed'
            have exists_ : config.timeZone.HasCivil (wall.on (config.timeZone.localDay now)) := by
              by_contra missing
              obtain ⟨e, he⟩ := right.refused fun civil asked' => by rwa [asked'.unique asked]
              cases he
            obtain ⟨t', placed', shows⟩ := ext.civilToZoned_shows exists_
            rw [placed] at placed'
            cases placed'
            obtain ⟨m, hm, shown⟩ := right.shown _ asked exists_
            cases hm
            exact ⟨exists_, (shownAs_iff shows).mp shown⟩
          · intro within
            obtain ⟨exists_, since⟩ := within _ t asked placed
            obtain ⟨t', placed', shows⟩ := ext.civilToZoned_shows exists_
            rw [placed] at placed'
            cases placed'
            refine ⟨_, rfl, fun civil asked' _ => ?_, fun missing => absurd exists_ (missing _ asked)⟩
            rw [asked'.unique asked]
            exact ⟨_, rfl, (shownAs_iff shows).mpr since⟩

/-! ### A host clock that has not been set -/

/-- 1970-01-01T00:00:00Z, where a host without a battery-backed clock starts. -/
def unixEpoch : Timestamp := ⟨0, by decide, by decide⟩

/-- A configuration in UTC. -/
def utcConfig : Config := { Scenario.config with timezone := "UTC", timeZone := .ofTable 0 [] }

/-- The time of the example. -/
def afternoon : CivilTime := (CivilTime.new? 14 35 0).get (by decide)

theorem parse_afternoon : parseWallClock "14:35" = .ok afternoon := by decide +kernel

/-- Asked for 14:35 on a host whose clock was never set, the program takes the Matter epoch for that time. -/
theorem unset_host_clock_misplaced :
    ¬ ∃ r, atInstant unixEpoch (manualInstant reference utcConfig "14:35").run = some r ∧
      RightInstant reference utcConfig.timeZone "14:35" unixEpoch r := by
  have utc : ∀ t, utcConfig.timeZone.toOffset t = 0 := fun t => rfl
  have asked : AsksFor utcConfig.timeZone "14:35" unixEpoch 52500 := ⟨afternoon, parse_afternoon, by decide⟩
  have shown : utcConfig.timeZone.Shows ⟨52500 * 1000000000, by decide, by decide⟩ 52500 := by
    unfold TimeZone.Shows
    rw [utc]
    decide
  rintro ⟨r, hr, right⟩
  obtain ⟨t, placed, shows⟩ := reference.civilToZoned_shows ⟨_, shown⟩
  have hcivil : afternoon.on (utcConfig.timeZone.localDay unixEpoch) = 52500 := by decide
  rw [atInstant_placed parse_afternoon (hcivil ▸ placed)] at hr
  cases hr
  obtain ⟨m, hm, again⟩ := right.shown _ asked ⟨_, shown⟩
  cases hm
  have early : t.nanos + 0 * 1000000000 = 52500 * 1000000000 := by rwa [TimeZone.Shows, utc] at shows
  rcases (shownAs_iff shows).mp again with since | epoch
  · unfold Timestamp.SinceMatterEpoch matterEpochUnixSeconds at since
    omega
  · unfold TimeZone.Shows at epoch
    rw [utc] at epoch
    exact absurd epoch (by decide)

end MatterTimeCtl
