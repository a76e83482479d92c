/-
# MatterTimeCtl.Storage.Membership — what the storage directory is, at every point of every interleaving.

The results of the refinement: the tool is a run of the roster machine, so there is one authority for ever, every
record is of a device that was joined under it, the counter keeps in step with the devices, and only a decommission
loses a record.
-/
import MatterTimeCtl.Scenario.Fleet

namespace MatterTimeCtl

open Files Effect Roster

section Interleavings

variable {ext : Externals} {plan : (c : Call) → c.Move → Prop} {struck : NodeId → Prop} {w₀ : World}
  {s s' : Pool Call Call.Answer (Except Failure Output) × World}

/-- **What a fair pool keeps up**: the world moves as the machine does, and the pool stays fair. -/
theorem Sane.interleaved (hw : Sane ext s.2) (reads : ReadsSucceed plan)
    (fair : s.1.Fair (planned ext plan) storageLock (Refines ext (MayStrike struck)) Unlocked Locked
      (fun _ _ => True) s.2) (steps : Interleaved ext plan struck s s') :
    Meanwhile ext (MayStrike struck) s.2 s'.2 ∧ s'.1.Fair (planned ext plan) storageLock
      (Refines ext (MayStrike struck)) Unlocked Locked (fun _ _ => True) s'.2 := by
  obtain ⟨taken, fair', -⟩ := Pool.Fair.steps (concord_refines ext plan (MayStrike struck))
    (fun _ _ step hw => (step hw).1) (fun p hp w hw => Sane.abides_invocation hp reads hw) fair hw steps
  exact ⟨hw.meanwhile taken, fair'⟩

theorem fair_of_interleaved (reads : ReadsSucceed plan) (virgin : Virgin w₀)
    (steps : Interleaved ext plan struck (Pool.empty, w₀) s) :
    Meanwhile ext (MayStrike struck) w₀ s.2 ∧ s.1.Fair (planned ext plan) storageLock
      (Refines ext (MayStrike struck)) Unlocked Locked (fun _ _ => True) s.2 :=
  virgin.sane.interleaved reads (Pool.fair_empty w₀) steps

/-- Between any two points, the world moves as the machine does. -/
theorem meanwhile_of_interleaved (reads : ReadsSucceed plan) (virgin : Virgin w₀)
    (before : Interleaved ext plan struck (Pool.empty, w₀) s) (after : Interleaved ext plan struck s s') :
    Meanwhile ext (MayStrike struck) s.2 s'.2 := by
  obtain ⟨now, fair⟩ := fair_of_interleaved reads virgin before
  exact (now.sane.interleaved reads fair after).1

/-- The roll of every point is sound. -/
theorem sound_of_interleaved (reads : ReadsSucceed plan) (virgin : Virgin w₀)
    (steps : Interleaved ext plan struck (Pool.empty, w₀) s) :
    Sane ext s.2 ∧ Sound (membership ext) (s.2.roll ext) := by
  obtain ⟨now, -⟩ := fair_of_interleaved reads virgin steps
  exact ⟨now.sane, Sound.of_moves (virgin.roll ▸ sound_blank) now.moves⟩

/-- **The tool refines the roster machine.**  Virgin storage is a blank roll, and from then on every step of every
interleaving is one of the machine, or does not show in the roll. -/
theorem invocations_refine_roster (ext : Externals) {plan : (c : Call) → c.Move → Prop}
    (reads : ReadsSucceed plan) {struck : NodeId → Prop} {w₀ : World} (virgin : Virgin w₀)
    {s s' : Pool Call Call.Answer (Except Failure Output) × World}
    (steps : Interleaved ext plan struck (Pool.empty, w₀) s)
    (step : Pool.Step (planned ext plan) storageLock (Striking ext struck) (fun _ _ => True) s s') :
    w₀.roll ext = (membership ext).blank ∧ (s'.2.roll ext = s.2.roll ext ∨
      Moves (membership ext) (MayStrike struck) (s.2.roll ext) (s'.2.roll ext)) := by
  obtain ⟨now, fair⟩ := fair_of_interleaved reads virgin steps
  obtain ⟨moved | same, -⟩ := fair.step (concord_refines ext plan (MayStrike struck))
    (fun p hp w hw => Sane.abides_invocation hp reads hw) now.sane step
  · exact ⟨virgin.roll, (moved now.sane).2⟩
  · exact ⟨virgin.roll, .inl (by rw [same])⟩

/-- A second commission, in the step that its device joins in. -/
theorem second_commission_refines :
    ∃ s s', Interleaved reference readable (fun _ => True) (Pool.empty, Scenario.freshHost) s ∧
      Pool.Step (planned reference readable) storageLock (Striking reference fun _ => True) (fun _ _ => True) s s' ∧
      2 ∉ (s.2.roll reference).numbers ∧ 2 ∈ (s'.2.roll reference).numbers ∧
      Scenario.freshHost.roll reference = (membership reference).blank ∧
      Moves (membership reference) (MayStrike fun _ => True) (s.2.roll reference) (s'.2.roll reference) := by
  obtain ⟨w, w', before, after, fleet, fleet'⟩ := Scenario.two_commissions fun _ => True
  have one : 2 ∉ (w.roll reference).numbers := by
    rw [show (w.roll reference).numbers = [1] from fleet.joined]
    decide
  have two : 2 ∈ (w'.roll reference).numbers := by
    rw [show (w'.roll reference).numbers = [2, 1] from fleet'.joined]
    decide
  obtain ⟨s, s', steps, step, absent, present⟩ := Pool.Steps.crosses
    (Q := fun s => 2 ∈ (s.2.roll reference).numbers) after one two
  obtain ⟨blank, same | moves⟩ := invocations_refine_roster reference reads_readable Scenario.virgin_freshHost
    (before.trans steps) step
  · exact absurd (same ▸ present) absent
  · exact ⟨s, s', before.trans steps, step, absent, present, blank, moves⟩

theorem iterate_succ (k : Nat) (n : NodeId) : (membership ext).succ^[k] n = n + UInt64.ofNat k := by
  induction k with
  | zero => simp
  | succ k ih =>
      rw [Function.iterate_succ_apply', ih]
      show n + UInt64.ofNat k + 1 = _
      rw [UInt64.add_assoc, ← UInt64.ofNat_one, ← UInt64.ofNat_add]

theorem mem_upTo_membership {n : NodeId} {k : Nat} : n ∈ (membership ext).upTo k ↔ n ∈ issued k := by
  induction k with
  | zero => simp [Rules.upTo, issued]
  | succ k ih =>
      have last : (membership ext).succ^[k] (membership ext).first = UInt64.ofNat (k + 1) := by
        rw [iterate_succ]
        show (1 : UInt64) + UInt64.ofNat k = _
        rw [UInt64.add_comm, ← UInt64.ofNat_one, ← UInt64.ofNat_add]
      rw [mem_upTo, issued, List.mem_cons, ← ih, mem_upTo]
      constructor
      · rintro ⟨i, hi, rfl⟩
        rcases Nat.lt_succ_iff_lt_or_eq.mp hi with hi | rfl
        · exact .inr ⟨i, hi, rfl⟩
        · exact .inl last
      · rintro (rfl | ⟨i, hi, rfl⟩)
        · exact ⟨k, k.lt_succ_self, last⟩
        · exact ⟨i, by omega, rfl⟩

/-- **Every record is of a device of this fabric.**  At every point of an interleaving, each key of devices.json is
the id of a device that was joined to a fabric whose root key is in identity.json. -/
theorem records_are_of_devices (ext : Externals) {plan : (c : Call) → c.Move → Prop} (reads : ReadsSucceed plan)
    {struck : NodeId → Prop} {w₀ : World} (virgin : Virgin w₀)
    {s : Pool Call Call.Answer (Except Failure Output) × World}
    (steps : Interleaved ext plan struck (Pool.empty, w₀) s) {key : String}
    (hkey : key ∈ (s.2.registry ext).nodes) :
    ∃ nodeId root identity, key = nodeKey nodeId ∧ (nodeId, root) ∈ s.2.history.joined ∧
      HasIdentity ext s.2 identity ∧ identity.credentials.Certifies ext root := by
  obtain ⟨sane, sound⟩ := sound_of_interleaved reads virgin steps
  obtain ⟨nodeId, hmem, rfl⟩ := sane.keyed key hkey
  obtain ⟨⟨_, root⟩, hjoined, rfl⟩ := List.mem_map.mp hmem
  obtain ⟨credentials, founded, certifies⟩ := sound.issued _ hjoined
  rw [World.roll, Option.map_eq_some_iff] at founded
  obtain ⟨identity, hid, rfl⟩ := founded
  exact ⟨_, root, identity, rfl, hjoined, identity?_eq_some.mp hid, certifies⟩

theorem second_record_is_of_device : ∃ w nodeId root identity, Scenario.Fleet Scenario.afterTwo [2, 1] w ∧
    nodeKey 2 = nodeKey nodeId ∧ (nodeId, root) ∈ w.history.joined ∧ HasIdentity reference w identity ∧
      identity.credentials.Certifies reference root := by
  obtain ⟨w, w', before, after, -, fleet⟩ := Scenario.two_commissions fun _ => True
  exact ⟨w', (records_are_of_devices reference reads_readable Scenario.virgin_freshHost (before.trans after)
    (fleet.recorded 2 (by decide))).imp fun nodeId h => h.imp fun root h => h.imp fun identity h => ⟨fleet, h⟩⟩

/-- **The counter keeps in step with the devices.**  At every point of an interleaving, if the counter stands at
`k + 1` then every id up to `k` was given to a device that joined, and no device joined under an id after `k + 1`. -/
theorem counter_in_step (ext : Externals) {plan : (c : Call) → c.Move → Prop} (reads : ReadsSucceed plan)
    {struck : NodeId → Prop} {w₀ : World} (virgin : Virgin w₀)
    {s : Pool Call Call.Answer (Except Failure Output) × World}
    (steps : Interleaved ext plan struck (Pool.empty, w₀) s) {identity : Identity}
    (hid : HasIdentity ext s.2 identity) :
    ∃ k, identity.nextDeviceNodeId = UInt64.ofNat (k + 1) ∧
      issued k ⊆ s.2.history.joined.map Prod.fst ∧ s.2.history.joined.map Prod.fst ⊆ issued (k + 1) := by
  obtain ⟨-, -, -, k, hnext, hlow, hhigh⟩ := sound_of_interleaved reads virgin steps
  refine ⟨k, ?_, fun n hn => hlow (mem_upTo_membership.mpr hn), fun n hn => mem_upTo_membership.mp (hhigh hn)⟩
  rw [next_of_hasIdentity hid, iterate_succ] at hnext
  rw [hnext]
  show (1 : UInt64) + UInt64.ofNat k = _
  rw [UInt64.add_comm, ← UInt64.ofNat_one, ← UInt64.ofNat_add]

theorem counter_after_two : ∃ w k, Scenario.Fleet Scenario.afterTwo [2, 1] w ∧ 3 = UInt64.ofNat (k + 1) ∧
    issued k ⊆ w.history.joined.map Prod.fst ∧ w.history.joined.map Prod.fst ⊆ issued (k + 1) := by
  obtain ⟨w, w', before, after, -, fleet⟩ := Scenario.two_commissions fun _ => True
  exact ⟨w', (counter_in_step reference reads_readable Scenario.virgin_freshHost (before.trans after)
    fleet.hasIdentity).imp fun k h => ⟨fleet, h⟩⟩

/-- **Only a decommission loses a record.**  In an interleaving without a decommission that may pick the node, a
record that is there stays there, whatever runs over it and wherever that is stopped. -/
theorem record_stays (ext : Externals) {plan : (c : Call) → c.Move → Prop} (reads : ReadsSucceed plan)
    {struck : NodeId → Prop} {w₀ : World} (virgin : Virgin w₀)
    {s s' : Pool Call Call.Answer (Except Failure Output) × World}
    (before : Interleaved ext plan struck (Pool.empty, w₀) s) (after : Interleaved ext plan struck s s')
    {nodeId : NodeId} (kept : ¬ struck nodeId) (recorded : nodeKey nodeId ∈ (s.2.registry ext).nodes) :
    nodeKey nodeId ∈ (s'.2.registry ext).nodes := by
  have moves := (meanwhile_of_interleaved reads virgin before after).moves
  have here : ((s.2.roll ext).roster nodeId).isSome := by
    rwa [World.roll, Std.ExtTreeMap.isSome_getElem?_iff_mem]
  have there := roster_of_moves (n := nodeId) kept here moves
  rwa [World.roll, Std.ExtTreeMap.isSome_getElem?_iff_mem] at there

theorem first_record_stays : ∃ w w', Scenario.Fleet Scenario.afterOne [1] w ∧
    Scenario.Fleet Scenario.afterTwo [2, 1] w' ∧ nodeKey 1 ∈ (w'.registry reference).nodes := by
  obtain ⟨w, w', before, after, fleet, fleet'⟩ := Scenario.two_commissions (· ≠ 1)
  exact ⟨w, w', fleet, fleet', record_stays reference reads_readable Scenario.virgin_freshHost before after
    (fun h => h rfl) (fleet.recorded 1 (by decide))⟩

/-- **Overlapping invocations are crash-safe, too.**  At every point of an interleaving, with processes that were
stopped anywhere, the storage is consistent, and an `ensureFabric` that finds no fault gets through with the pair that
is there or a new one. -/
theorem interleaving_crash_safe (ext : Externals) {plan : (c : Call) → c.Move → Prop} (reads : ReadsSucceed plan)
    {struck : NodeId → Prop} {w₀ : World} (virgin : Virgin w₀)
    {s : Pool Call Call.Answer (Except Failure Output) × World}
    (steps : Interleaved ext plan struck (Pool.empty, w₀) s) : Consistent ext s.2 ∧ NextRunSucceeds ext s.2 := by
  obtain ⟨sane, -⟩ := sound_of_interleaved reads virgin steps
  exact ⟨sane.consistent, sane.consistent.nextRunSucceeds⟩

theorem two_commissions_crash_safe : ∃ w, Scenario.Fleet Scenario.afterTwo [2, 1] w ∧ Consistent reference w ∧
    NextRunSucceeds reference w := by
  obtain ⟨w, w', before, after, -, fleet⟩ := Scenario.two_commissions fun _ => True
  exact ⟨w', fleet, interleaving_crash_safe reference reads_readable Scenario.virgin_freshHost (before.trans after)⟩

end Interleavings

end MatterTimeCtl
