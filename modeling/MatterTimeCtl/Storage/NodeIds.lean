/-
# MatterTimeCtl.Storage.NodeIds — which node ids devices are joined under.

The counter in identity.json is read when a run starts, its value handed to the device over two network
phases, and it is only moved on at the very end.  As long as every run that joins a device gets to the
end, the ids are 1, 2, 3 and so on, and the registry only has records under ids that were joined; a run
that is stopped between the two leaves the id it used to be taken again.
-/
import MatterTimeCtl.Storage.Operate
import MatterTimeCtl.Scenario.Commission

namespace MatterTimeCtl

open Files Effect

/-! ## Counting ids -/

/-- The ids a counter that starts at 1 has given out after `k` devices, the latest first. -/
def issued : Nat → List NodeId
  | 0 => []
  | k + 1 => UInt64.ofNat (k + 1) :: issued k

theorem mem_issued {n : NodeId} {k : Nat} (h : n ∈ issued k) : ∃ i, 1 ≤ i ∧ i ≤ k ∧ n = UInt64.ofNat i := by
  induction k with
  | zero => exact absurd h List.not_mem_nil
  | succ k ih =>
      rcases List.mem_cons.mp h with rfl | h
      · exact ⟨k + 1, by omega, by omega, rfl⟩
      · obtain ⟨i, h1, hk, rfl⟩ := ih h
        exact ⟨i, h1, by omega, rfl⟩

/-- Before the counter has gone all the way round, the next id is a new one. -/
theorem ofNat_succ_notMem_issued {k : Nat} (hk : k < 2 ^ 64) : UInt64.ofNat (k + 1) ∉ issued k := by
  intro h
  obtain ⟨i, h1, hik, heq⟩ := mem_issued h
  have hnat := congrArg UInt64.toNat heq
  rw [UInt64.toNat_ofNat', UInt64.toNat_ofNat'] at hnat
  omega

theorem nodup_issued {k : Nat} (hk : k ≤ 2 ^ 64) : (issued k).Nodup := by
  induction k with
  | zero => exact List.nodup_nil
  | succ k ih =>
      exact List.nodup_cons.mpr ⟨ofNat_succ_notMem_issued (by omega), ih (by omega)⟩

/-! ## The invariant -/

/-- How many devices were joined. -/
def World.devices (w : World) : Nat := w.history.joined.length

/-- **The counting invariant.** -/
structure Counted (ext : Externals) (w : World) : Prop where
  /-- The ids in use are those a counter would have given out. -/
  ids : w.history.joined.map Prod.fst = issued w.devices
  bound : w.devices ≤ 2 ^ 64
  /-- Records are under ids in use. -/
  keys : ∀ key ∈ (w.registry ext).nodes, ∃ n ∈ issued w.devices, key = nodeKey n
  absent : w.files identityPath = none → w.devices = 0
  /-- Unless its last move is owed, the counter stands at the next id. -/
  counter : w.history.owed = false → ∀ identity, HasIdentity ext w identity →
    identity.nextDeviceNodeId = UInt64.ofNat (w.devices + 1)
  reused : w.history.reused = []

/-- A run may start: no move of the counter is owed, and there are ids left. -/
def MayStart (w : World) : Prop := w.history.owed = false ∧ w.devices < 2 ^ 64

section Facts

variable {ext : Externals} {plan : (c : Call) → c.Move → Prop} {config : Config} {w w' w₀ w₁ : World}
  {ctx : Ctx} {fabrics rest : List Fabric}

theorem World.SameOn.devices (h : w.Same w') : w'.devices = w.devices := by
  rw [World.devices, h.history, World.devices]

theorem HasIdentity.same {identity : Identity} (h : w.Same w') :
    HasIdentity ext w' identity ↔ HasIdentity ext w identity := by
  simp only [HasIdentity, readText, h.at_ isState_identity]

theorem stable_counted : Stable (Counted ext) := by
  intro w w' h hw
  refine ⟨?_, ?_, ?_, ?_, ?_, ?_⟩
  · rw [h.history, h.devices, hw.ids]
  · rw [h.devices]
    exact hw.bound
  · rw [h.registry, h.devices]
    exact hw.keys
  · rw [h.at_ isState_identity, h.devices]
    exact hw.absent
  · rw [h.history, h.devices]
    exact fun howed identity hid => hw.counter howed identity ((HasIdentity.same h).mp hid)
  · rw [h.history]
    exact hw.reused

theorem stable_mayStart : Stable MayStart := by
  rintro w w' h ⟨howed, hlt⟩
  exact ⟨by rw [h.history, howed], by rw [h.devices]; exact hlt⟩

theorem Virgin.counted (h : Virgin w) : Counted ext w where
  ids := by rw [World.devices, h.history]; rfl
  bound := by simp [World.devices, h.history]
  keys key hkey := by
    have hempty := registry_of_absent ext (h.files _ isState_devices)
    exact absurd hkey (by simp [Std.ExtTreeMap.isEmpty_iff.mp hempty])
  absent _ := by rw [World.devices, h.history]; rfl
  counter _ identity hid := by
    obtain ⟨text, hread, -⟩ := hid
    rw [readText_none (h.files _ isState_identity)] at hread
    cases hread
  reused := by rw [h.history]

/-- The counting invariant is about identity.json, the registry and the joined devices. -/
theorem Counted.transfer (hw : Counted ext w)
    (hid : w'.files identityPath = w.files identityPath)
    (hreg : w'.registry ext = w.registry ext) (joined : w'.history.joined = w.history.joined)
    (owed : w'.history.owed = w.history.owed) (reused : w'.history.reused = []) :
    Counted ext w' := by
  have hdevices : w'.devices = w.devices := by rw [World.devices, joined, World.devices]
  refine ⟨?_, ?_, ?_, ?_, ?_, reused⟩
  · rw [joined, hdevices, hw.ids]
  · rw [hdevices]
    exact hw.bound
  · rw [hreg, hdevices]
    exact hw.keys
  · rw [hid, hdevices]
    exact hw.absent
  · rw [owed, hdevices]
    simpa only [HasIdentity, readText, hid] using hw.counter

theorem hasIdentity_put {identity identity' : Identity}
    (h : HasIdentity ext (w.put identityPath (jsonFile ext.identityJson identity)) identity') :
    identity' = identity := by
  obtain ⟨text, hread, hparse⟩ := h
  rw [readText_jsonFile (World.put_files_self ..)] at hread
  obtain rfl := Except.ok.inj hread
  rw [ext.identityJson.decode_encode] at hparse
  exact (Except.ok.inj hparse).symm

/-- Writing an identity whose counter stands at the next id pays what is owed. -/
theorem Counted.put_identity (hw : Counted ext w) {identity : Identity}
    (next : identity.nextDeviceNodeId = UInt64.ofNat (w.devices + 1)) :
    Counted ext (w.put identityPath (jsonFile ext.identityJson identity)) := by
  have hjoined : (w.put identityPath (jsonFile ext.identityJson identity)).history =
      { w.history with owed := false } := by rw [World.put, if_pos rfl]
  have hdevices : (w.put identityPath (jsonFile ext.identityJson identity)).devices = w.devices := by
    rw [World.devices, hjoined, World.devices]
  refine ⟨?_, ?_, ?_, ?_, ?_, ?_⟩
  · rw [hdevices, hjoined]
    exact hw.ids
  · rw [hdevices]
    exact hw.bound
  · rw [hdevices, World.registry_put_of_ne w devices_ne_identity]
    exact hw.keys
  · intro hnone
    rw [World.put_files_self] at hnone
    cases hnone
  · intro _ identity' hid
    rw [hasIdentity_put hid, hdevices]
    exact next
  · rw [hjoined]
    exact hw.reused

/-! ## What a run does to it -/

/-- `ensureFabric` moves no counter, except to start one for storage without devices. -/
theorem Counted.ensure (hw : Counted ext w) (hstart : MayStart w)
    (h : EnsureSeen ext plan config fabrics w w₁) : Counted ext w₁ ∧ MayStart w₁ := by
  have cleared : ∀ {rest w₀}, Cleared ext plan fabrics w rest w₀ → Counted ext w₀ ∧ MayStart w₀ := by
    rintro rest w₀ (_ | @⟨f, _, _, _, _⟩)
    · exact ⟨hw, hstart⟩
    · refine ⟨hw.transfer ?_ (World.registry_remove w _) rfl rfl hw.reused, hstart⟩
      exact World.remove_files_of_ne ext w (identity_ne_fabric _)
  -- installing writes a blob only: what is counted lies in the identity, the registry and the history
  have install : ∀ {w₀}, Counted ext w₀ ∧ MayStart w₀ → ∀ f, Counted ext (w₀.install ext f) ∧
      MayStart (w₀.install ext f) := by
    rintro w₀ ⟨hw₀, hstart₀⟩ f
    have hhistory := World.install_history ext w₀ f
    refine ⟨hw₀.transfer (World.install_identity w₀ f) (World.registry_install w₀ f)
      (congrArg History.joined hhistory) (congrArg History.owed hhistory) ?_, ?_⟩
    · rw [hhistory]
      exact hw₀.reused
    · rw [MayStart, World.devices, hhistory]
      exact hstart₀
  cases h with
  | untouched => exact ⟨hw, hstart⟩
  | relabelled _ _ _ => exact install ⟨hw, hstart⟩ _
  | cleared h => exact cleared h
  | installed h _ => exact install (cleared h.cleared) _
  | @complete rest w₀ f identity h minted =>
      obtain ⟨hw₁, hstart₁⟩ := install (cleared h.cleared) f
      -- a bootstrap needs an absent identity, under which no device has joined
      have nobody : (w₀.install ext f).devices = 0 := by
        refine hw₁.absent ?_
        rw [World.install_identity]
        exact h.absent
      refine ⟨hw₁.put_identity ?_, ?_⟩
      · rw [minted.counter, nobody]
        rfl
      · rw [World.complete, MayStart, World.devices, World.put, if_pos rfl]
        exact ⟨rfl, hstart₁.2⟩

/-- **Every world of a commissioning is counted**, when nothing was owed before. -/
theorem Counted.commission (hw : Counted ext w) (hstart : MayStart w)
    (hid : HasIdentity ext w ctx.identity) (h : CommissionSeen ext plan ctx w w₁) :
    Counted ext w₁ := by
  obtain ⟨howed, hlt⟩ := hstart
  have next := hw.counter howed _ hid
  have present : w.files identityPath ≠ none := by
    intro hnone
    obtain ⟨text, hread, -⟩ := hid
    rw [readText_none hnone] at hread
    cases hread
  -- the id is not one in use, so there is no record under it
  have unused : nodeKey ctx.identity.nextDeviceNodeId ∉ (w.registry ext).nodes := by
    intro hmem
    obtain ⟨m, hm, hkey⟩ := hw.keys _ hmem
    rw [← nodeKey_injective hkey, next] at hm
    exact ofNat_succ_notMem_issued hlt hm
  have reused : (w.assign ext ctx.identity.nextDeviceNodeId).history.reused = [] := by
    rw [World.assign]
    simp only [if_neg unused, hw.reused]
  have assigned : Counted ext (w.assign ext ctx.identity.nextDeviceNodeId) :=
    hw.transfer rfl rfl rfl rfl reused
  have joined : ∀ f, Counted ext (w.enroll ext ctx.identity.nextDeviceNodeId f) := by
    intro f
    have hdevices : (w.enroll ext ctx.identity.nextDeviceNodeId f).devices = w.devices + 1 := rfl
    refine ⟨?_, by rw [hdevices]; omega, ?_, fun hnone => absurd hnone present, ?_, reused⟩
    · rw [hdevices, issued, ← hw.ids, ← next]
      rfl
    · intro key hkey
      obtain ⟨m, hm, hkey⟩ := hw.keys key hkey
      rw [hdevices]
      exact ⟨m, List.mem_cons_of_mem _ hm, hkey⟩
    · intro hclear
      cases hclear
  have recorded : ∀ {f w₁}, RegistryChanged ext plan (w.enroll ext ctx.identity.nextDeviceNodeId f)
      (Devices.Inserted ctx.identity.nextDeviceNodeId) w₁ →
      Counted ext w₁ ∧ w₁.devices = w.devices + 1 := by
    rintro f w₁ ⟨raw, devices, read, ⟨record, rfl⟩, rfl⟩
    have hw₁ := joined f
    have hhistory : ∀ bytes, ((w.enroll ext ctx.identity.nextDeviceNodeId f).put devicesPath
        bytes).history = (w.enroll ext ctx.identity.nextDeviceNodeId f).history := fun bytes => by
      rw [World.put, if_neg devices_ne_identity]
    refine ⟨⟨?_, ?_, ?_, ?_, ?_, ?_⟩, ?_⟩
    · rw [World.devices, hhistory]
      exact hw₁.ids
    · rw [World.devices, hhistory]
      exact hw₁.bound
    · intro key hkey
      rw [World.registry_put, Std.ExtTreeMap.mem_insert] at hkey
      rw [World.devices, hhistory]
      rcases hkey with hkey | hkey
      · refine ⟨_, ?_, (Std.LawfulEqCmp.eq_of_compare hkey).symm⟩
        rw [next]
        exact List.mem_cons_self ..
      · exact hw₁.keys key (read.registry_subset hkey)
    · intro hnone
      rw [World.put_files_of_ne _ devices_ne_identity.symm] at hnone
      exact absurd hnone present
    · rw [hhistory]
      intro hclear
      cases hclear
    · rw [hhistory]
      exact reused
    · rw [World.devices, hhistory]
      rfl
  cases h with
  | untouched => exact hw
  | assigned => exact assigned
  | joined _ => exact joined _
  | recorded _ changed => exact (recorded changed).1
  | counted _ changed =>
      obtain ⟨hw₁, hdevices⟩ := recorded changed
      refine hw₁.put_identity ?_
      rw [hdevices, Identity.counted, next, ← UInt64.ofNat_one, ← UInt64.ofNat_add]

/-! ## Whole runs -/

/-- The runs of `commission`, under any configuration. -/
def Commissions (ext : Externals) (p : Prog (Except Failure Output)) : Prop :=
  ∃ config onboarding, p = (runCommission ext config onboarding).run

theorem runKeeps_counted (onboarding : Onboarding) :
    RunKeeps ext plan config (fun w => Counted ext w ∧ MayStart w) (Counted ext)
      (.commission onboarding) fun _ _ => True where
  stable _ _ hs h := ⟨stable_counted hs h.1, stable_mayStart hs h.2⟩
  stable' := stable_counted
  imp _ h := h.1
  ensure hw _ seen := hw.1.ensure hw.2 seen
  operate {loaded w w₁ fabrics fabIdx identity w'} hw _ hok hs := by
    obtain ⟨hw₁, hstart₁⟩ := hw.1.ensure hw.2 hok.seen
    have hid : HasIdentity ext w' identity := (HasIdentity.same hs).mpr hok.identity
    refine (commissionOp_spec onboarding w').mono ?_ fun _ _ _ _ => trivial
    rintro w₃ ⟨w₂, seen, h⟩
    exact stable_counted h
      ((stable_counted hs hw₁).commission (stable_mayStart hs hstart₁) hid seen)
  error _ _ := trivial
  report _ _ hw _ := hw.transfer rfl rfl rfl rfl hw.reused

/-- **Node ids are not reused, as long as no run is stopped between a device joining and the counter
moving on.**  From virgin storage, over every sequence of commission runs, each stopped anywhere, that
all start with nothing owed and with ids left: devices were joined under distinct ids, and no run took an
id that the registry had a record under. -/
theorem node_ids_not_reused (ext : Externals) {plan : (c : Call) → c.Move → Prop} {w₀ w : World}
    (virgin : Virgin w₀) (runs : SessionsFrom (planned ext plan) MayStart (Commissions ext) w₀ w) :
    (w.history.joined.map Prod.fst).Nodup ∧ w.history.reused = [] := by
  have hw : Counted ext w := by
    refine runs.invariant (fun p hp w hstart hw => ?_) virgin.counted
    obtain ⟨config, onboarding, rfl⟩ := hp
    exact (runCommission_safe (runKeeps_counted onboarding) ⟨hw, hstart⟩).mono (fun _ h => h)
      fun _ _ _ _ => trivial
  rw [hw.ids]
  exact ⟨nodup_issued hw.bound, hw.reused⟩

end Facts

open Scenario in
/-- Two devices are commissioned. -/
theorem second_node_id_not_reused : ∃ w,
    SessionsFrom anything MayStart (Commissions reference) freshHost w ∧
      w.history.joined.map Prod.fst = [2, 1] ∧ (w.history.joined.map Prod.fst).Nodup ∧ w.history.reused = [] := by
  have may : ∀ {w : World} {i ids}, Fleet i ids w → ids.length < 2 ^ 64 → MayStart w := fun fleet hids =>
    ⟨fleet.settled, by rwa [World.devices, ← List.length_map Prod.fst, fleet.joined]⟩
  have hp : Commissions reference (runCommission reference config onboarding).run := ⟨config, onboarding, rfl⟩
  obtain ⟨w₁, session₁, fleet₁⟩ := session_commission (.inl rfl) (loads_nothing fun _ => rfl)
    (fun _ => ends_ensureFabric_first) rfl fleet_first hp
  obtain ⟨w₂, session₂, fleet₂⟩ := session_commission (.inr (by rw [fleet₁.established.identity]; rfl))
    fleet₁.established.loads (fun _ => fleet₁.established.ends_ensureFabric) rfl fleet₁ hp
  have start : MayStart freshHost := ⟨rfl, Nat.two_pow_pos 64⟩
  have runs : SessionsFrom anything MayStart (Commissions reference) freshHost w₂ :=
    .tail (.single ⟨start, session₁⟩) ⟨may fleet₁ (by decide), session₂⟩
  exact ⟨w₂, runs, fleet₂.joined, node_ids_not_reused reference virgin_freshHost runs⟩

/-! ## A reply that is lost -/

open Scenario (Ends onboarding)

/-- The reply to CommissioningComplete never arrives. -/
def replyLost : Scenario := { completed := none }

/-- The device has joined, and the run fails. -/
theorem ends_commission_lost {i : Identity} (key : i.rcacPrivkeyHex = hexEncode Reference.keyOne.toList)
    (w : World) : replyLost.Ends
      (CommissionOp.run reference { Scenario.ctx with identity := i } onboarding) w
      (.error (.timedOut "CommissioningComplete over CASE" commissionTimeoutSecs))
      (w.enroll reference i.nextDeviceNodeId Scenario.fabric) := by
  exact Ends.bind_error (Scenario.ends_join_of_complete (r := .error _) key fun _ h =>
    ⟨_, rfl, Scenario.alike_enroll h _⟩)

/-- A run that loses the reply, from how it ensures the fabric. -/
theorem session_lost {w w₁ : World} {loaded : List Fabric} {i : Identity}
    (ready : w.storageMode = none ∨ (w.files identityPath).isSome = true)
    (load : reference.loadFabrics (blobsOf w.files) = .ok loaded)
    (ensure : ∀ w', w.Alike w' → replyLost.Ends (ensureFabric reference Scenario.config loaded) w'
      (.ok ([Scenario.fabric], Scenario.fabric.fabIdx, i)) w₁)
    (key : i.rcacPrivkeyHex = hexEncode Reference.keyOne.toList) :
    ∃ w', Session (system reference) (Commissions reference) w w' ∧
      (w₁.enroll reference i.nextDeviceNodeId Scenario.fabric).Alike w' := by
  have private_ : w.Alike { w with storageMode := some privateMode } := ⟨⟨.refl _ _, rfl⟩, fun _ => rfl⟩
  have runs : replyLost.Ends (run reference Scenario.config (.commission onboarding)) w
      (.error (.timedOut "CommissioningComplete over CASE" commissionTimeoutSecs))
      (World.report (w₁.enroll reference i.nextDeviceNodeId Scenario.fabric) (.commission onboarding)
        (.error (.timedOut "CommissioningComplete over CASE" commissionTimeoutSecs))) := by
    refine Scenario.ends_run ready fun w' hw' => ?_
    have load' : reference.loadFabrics (blobsOf w'.files) = .ok loaded := by rwa [hw'.same.blobs]
    exact Scenario.ends_runLocked load' (fun w'' hw'' => ensure w'' (private_.trans (hw'.trans hw'')))
      fun w'' hw'' => (ends_commission_lost key w'').alike (hw''.enroll _ _)
  obtain ⟨w', session, hw'⟩ := (Ends.bind_error (f := fun c => pure (Output.commissioned [c])) runs).session
    (P := Commissions reference) ⟨Scenario.config, onboarding, rfl⟩
  exact ⟨w', session, hw'.same, hw'.mode⟩

/-- **A node id is used twice.**  On a new host, a device joins as node 1 and the reply is lost; the next
device joins as node 1 again. -/
theorem node_id_reused : ∃ w, Sessions (system reference) (Commissions reference) Scenario.freshHost w ∧
    w.history.joined.map Prod.fst = [1, 1] ∧ ¬ (w.history.joined.map Prod.fst).Nodup := by
  obtain ⟨w₁, session₁, h₁⟩ := session_lost (.inl rfl) (Scenario.loads_nothing fun _ => rfl)
    (fun _ => Scenario.ends_ensureFabric_first) rfl
  have established : Scenario.Established w₁ Scenario.first :=
    (Scenario.established_complete (w := Scenario.freshHost) (fun _ => rfl) Scenario.first).agree
      h₁.same.files
  obtain ⟨w₂, session₂, h₂⟩ := session_lost (i := Scenario.first)
    (.inr (by rw [established.identity]; rfl)) established.loads (fun _ => established.ends_ensureFabric) rfl
  have ids : w₂.history.joined.map Prod.fst = [1, 1] := by
    rw [h₂.same.history]
    show _ :: w₁.history.joined.map Prod.fst = _
    rw [h₁.same.history]
    rfl
  exact ⟨w₂, .tail (.single session₁) session₂, ids, by rw [ids]; decide⟩

end MatterTimeCtl
