/-
# MatterTimeCtl.Device.Upkeep — what the devices show while the tool is in use.

Invocations overlap, fail half way and are killed; devices answer or do not, and a request whose answer is lost may
have taken effect.  Through all of it, where nobody states the time himself, a device's clock runs behind by what
passed between a reading of the host's clock and its arrival, and shows the local time of the zone by rules that were
taken from such a reading on: both are read off `Maintained`, which every call of every invocation keeps.
-/
import MatterTimeCtl.Device.LocalTime
import MatterTimeCtl.Storage.Exclusive
import MatterTimeCtl.Wire.TimeSource

namespace MatterTimeCtl

open Files Effect

/-! ## The invariant -/

/-- **What a device was given** comes from these readings of the host's clock. -/
structure Maintained (config : Config) (readings : List Timestamp) (peer : Peer) : Prop where
  setting : ∀ s, peer.setting = some s → ∃ read ∈ readings, read ≤ s.applied ∧ s.value = .fromTimestamp read
  zone : peer.zone = [] ∨
    ∃ read ∈ readings, peer.zone = buildTimeZoneList config.timeZone config.timezone read
  dst : peer.dst = [] ∨
    ∃ read ∈ readings, ∃ capacity : UInt8, peer.dst = buildDstOffsetList config.timeZone capacity.toNat read

theorem Maintained.later {config : Config} {readings readings' : List Timestamp} {peer : Peer}
    (h : Maintained config readings peer) (more : readings ⊆ readings') : Maintained config readings' peer where
  setting s hs := by
    obtain ⟨read, hread, applied, value⟩ := h.setting s hs
    exact ⟨read, more hread, applied, value⟩
  zone := h.zone.imp_right fun ⟨read, hread, zone⟩ => ⟨read, more hread, zone⟩
  dst := h.dst.imp_right fun ⟨read, hread, dst⟩ => ⟨read, more hread, dst⟩

/-- What may be asked of a device by one who has seen these readings. -/
def upkeep (config : Config) : Monitor Call Call.Answer TimeSeen where
  may seen
    | .wire _ (.setUtcTime value) => ∃ read ∈ seen.readings, value = .fromTimestamp read
    | .wire _ (.setTimeZone entries) =>
      ∃ read ∈ seen.readings, entries = buildTimeZoneList config.timeZone config.timezone read
    | .wire _ (.setDstOffset entries) =>
      ∃ read ∈ seen.readings, ∃ capacity : UInt8, entries = buildDstOffsetList config.timeZone capacity.toNat read
    | _ => True
  see := TimeSeen.see

section Upkeep

variable {ext : Externals} {plan : (c : Call) → c.Move → Prop} {config : Config} {G : Call → World × TimeSeen → Prop}
  {peer : Peer} {w w₀ : World}

/-- A request of one who has seen some of these readings. -/
theorem Maintained.process {readings : List Timestamp} {seen : TimeSeen} {n : NodeId} {r : Request}
    (may : (upkeep config).may seen (.wire n r)) {at_ sampled : Timestamp} (hseen : seen.readings ⊆ readings)
    (past : ∀ read ∈ readings, read ≤ at_) (h : Maintained config readings peer) (answered : Bool) :
    Maintained config readings (peer.process sampled at_ answered r) := by
  cases r with
  | setUtcTime value =>
      obtain ⟨read, hmem, value⟩ := may
      refine ⟨fun s hs => ?_, h.zone, h.dst⟩
      obtain rfl := Option.some.inj hs
      exact ⟨read, hseen hmem, past read (hseen hmem), value⟩
  | setTimeZone entries =>
      obtain ⟨read, hmem, entries⟩ := may
      exact ⟨h.setting, .inr ⟨read, hseen hmem, entries⟩, h.dst⟩
  | setDstOffset entries =>
      obtain ⟨read, hmem, capacity, entries⟩ := may
      exact ⟨h.setting, h.zone, .inr ⟨read, hseen hmem, capacity, entries⟩⟩
  | utcTimeRead => cases answered <;> exact ⟨h.setting, h.zone, h.dst⟩
  | _ => exact h

theorem Timestamp.SinceMatterEpoch.mono {t t' : Timestamp} (h : t.SinceMatterEpoch) (later : t ≤ t') :
    t'.SinceMatterEpoch := le_trans (show (_ : Int) ≤ _ from h) later

/-- The environment, with all that its invocations see of the time. -/
abbrev watched (ext : Externals) (plan : (c : Call) → c.Move → Prop) :
    Environment (World × TimeSeen) Call Call.Answer := (planned ext plan).watch TimeSeen.see

/-- The clock was read only after the Matter epoch, and every device is maintained with those readings. -/
structure AllMaintained (config : Config) (v : World × TimeSeen) : Prop where
  epoch : v.1.clock.SinceMatterEpoch
  read : ∀ read ∈ v.2.readings, read.SinceMatterEpoch ∧ read ≤ v.1.clock
  devices : ∀ n, Maintained config v.2.readings (v.1.peers n)

section Calls

variable {v : World × TimeSeen} {c : Call} {m : c.Move}

/-- No reading is lost. -/
theorem readings_next : v.2.readings ⊆ ((watched ext plan).next c v m).2.readings :=
  (kept_see v.2 c _).readings.subset

/-- A reading is of the clock as it stands. -/
theorem AllMaintained.read_next (h : AllMaintained config v) (past : v.1.clock ≤ m.later) :
    ∀ read ∈ ((watched ext plan).next c v m).2.readings, read.SinceMatterEpoch ∧ read ≤ m.later := by
  have before : ∀ read ∈ v.2.readings, read.SinceMatterEpoch ∧ read ≤ m.later := fun read hread =>
    ⟨(h.read read hread).1, (h.read read hread).2.trans past⟩
  cases c with
  | now => exact List.forall_mem_append.mpr ⟨before, List.forall_mem_singleton.mpr ⟨h.epoch.mono past, le_rfl⟩⟩
  | _ => exact before

/-- **Every call** that may be made keeps the devices maintained. -/
theorem AllMaintained.next {seen : TimeSeen} (may : (upkeep config).may seen c)
    (hseen : seen.readings ⊆ v.2.readings) (h : AllMaintained config v)
    (admitted : (watched ext plan).admits c v m) : AllMaintained config ((watched ext plan).next c v m) := by
  obtain ⟨later, choice⟩ := m
  obtain ⟨⟨past, lawful⟩, -⟩ := admitted
  refine ⟨h.epoch.mono past, h.read_next past, fun n => ?_⟩
  have stays : Maintained config ((watched ext plan).next c v ⟨later, choice⟩).2.readings (v.1.peers n) :=
    (h.devices n).later readings_next
  -- only a request changes a device
  cases c with
  | file c => cases choice <;> exact stays
  | dir c =>
      have hpeers : (dirEffect v.1 c choice).peers = v.1.peers := by
        unfold dirEffect
        split <;> rfl
      exact (congrFun hpeers n).symm ▸ stays
  | timed secs future =>
      obtain ⟨processed, reply⟩ := choice
      cases future with
      | completeViaCase peer fabric n => cases processed <;> exact stays
      | _ => exact stays
  | wire node r =>
      obtain ⟨processed, reply⟩ := choice
      cases processed with
      | none => exact stays
      | some at_ =>
          obtain ⟨after, -⟩ := lawful.1 at_ rfl
          show Maintained config _ (Function.update v.1.peers node _ n)
          by_cases hn : n = node
          · subst hn
            rw [Function.update_self]
            exact (h.devices n).process may hseen (fun read hread => (h.read read hread).2.trans after) reply.isOk
          · rw [Function.update_of_ne hn]
            exact stays
  | _ => exact stays

end Calls

/-- When the host's clock stands at `t`, that of the device shows the instant `u`. -/
def ClockSetting.Shows (s : ClockSetting) (t u : Timestamp) : Prop :=
  u.nanos = s.clock t + matterEpochUnixSeconds * 1000000000

end Upkeep

section Synced

open Scenario

variable {P : Prog (Except Failure Output) → Prop} {G : Call → World → Prop} {i : Nat}

end Synced

end MatterTimeCtl
