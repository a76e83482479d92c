/-
# MatterTimeCtl.Storage.Registry — what the registry file holds.

The abstract registry is a map from node ids to records: `RegistryOp.Applies` is one update or removal of
it, `Folds` a sequence of them, and `Represents` relates it to a loaded file, which keeps each record under
the decimal string of its id.  Every change reads the file leniently and writes it back whole.  From a
missing file on, the file follows the map; but a file that cannot be read or parsed counts as empty, and
the next change replaces it.
-/
import MatterTimeCtl.Storage.Refusal

namespace MatterTimeCtl

open Files Effect

/-- A patch of a device record: it may look at the clock, leaves the storage alone, and returns a
record. -/
structure Patch where
  run : DeviceRecord → Action DeviceRecord
  talks : ∀ d, (run d).run.Uses Talk
  succeeds : ∀ d, Succeeds (run d)

/-- A patch that only computes. -/
def Patch.pure (f : DeviceRecord → DeviceRecord) : Patch where
  run d := return f d
  talks _ := uses_run_pure _
  succeeds d := .pure (f d)

theorem Patch.not_yields_error (patch : Patch) {d : DeviceRecord} {e : Failure} :
    ¬ (patch.run d).run.Yields (.error e) := by
  intro h
  obtain ⟨record, hr⟩ := (patch.succeeds d).of_yields h
  cases hr

/-! ## One change -/

section OneChange

variable (ext : Externals) (unreadable : Path → Bool)

/-- The change failed and devices.json is as it was, or devices.json is a registry that has under every
key but the node's own exactly what the old file is loaded as. -/
def ChangesOnly (nodeId : NodeId) (w : World) : Except Failure Unit → World → Prop
  | .error _, w' => w'.files devicesPath = w.files devicesPath
  | .ok _, w' => ∃ devices, w'.files devicesPath = some (jsonFile ext.devicesJson devices) ∧
      ∀ key, key ≠ nodeKey nodeId →
        devices.nodes[key]? = (registryUnder ext unreadable w).nodes[key]?

variable {ext} {unreadable}

/-- A change of the registry that leaves all keys but the node's own alone. -/
theorem changesOnly_of_made {nodeId : NodeId} {w w' : World} {change : Devices → Devices → Prop}
    {refuses : Failure → Prop} {r : Except Failure Unit}
    (others : ∀ old new, change old new → ∀ key, key ≠ nodeKey nodeId → new.nodes[key]? = old.nodes[key]?)
    (h : RegistryMade ext (storagePlan unreadable) w change refuses r w') :
    ChangesOnly ext unreadable nodeId w r w' := by
  cases r with
  | error e => exact h.1.at_ isState_devices
  | ok u =>
      obtain ⟨w₁, ⟨raw, devices, hraw, hchange, rfl⟩, same⟩ := h
      obtain rfl := reads_storagePlan.mp hraw
      refine ⟨devices, ?_, others _ _ hchange⟩
      rw [same.at_ isState_devices, World.put_files_self]

end OneChange

/-- **A change of one node's record keeps the others that are loaded.**  In every storage state and
whatever else fails, an update and a removal either return an error and leave devices.json as it was, or
leave a registry with, under every other key, what devices.json is loaded as; a file that cannot be read or
parsed is loaded as empty. -/
theorem update_keeps_other_records (ext : Externals) (unreadable : Path → Bool) (w : World)
    (nodeId : NodeId) (patch : Patch) :
    Safe (planned ext (storagePlan unreadable)) (fun _ => True)
        (updateDevice ext devicesPath nodeId patch.run).run (ChangesOnly ext unreadable nodeId w) w ∧
      Safe (planned ext (storagePlan unreadable)) (fun _ => True)
        (removeDevice ext devicesPath nodeId).run (ChangesOnly ext unreadable nodeId w) w := by
  constructor
  · refine (updateDevice_patched nodeId patch.talks w).mono (fun _ _ => trivial) fun r w' _ h => ?_
    refine changesOnly_of_made ?_ h
    rintro old _ ⟨record, -, rfl⟩ key hne
    exact getElem?_insert_of_ne hne record
  · refine (removeDevice_made nodeId w).mono (fun _ _ => trivial) fun r w' _ h => ?_
    refine changesOnly_of_made ?_ h
    rintro old _ rfl key hne
    exact getElem?_erase_of_ne hne

namespace Scenario

/-- Reads fail for the unreadable files. -/
def readMove (unreadable : Path → Bool) : (c : Call) → World → Option c.Move
  | .file (.readToString p), w => some ⟨w.clock, if unreadable p then .fail 0 else .succeed⟩
  | _, _ => none

theorem admits_readMove (unreadable : Path → Bool) (c : Call) (w : World) (m : c.Move)
    (h : readMove unreadable c w = some m) : (system reference).admits c w m := by
  unfold readMove at h
  split at h
  · obtain rfl := Option.some.inj h
    exact ⟨le_rfl, trivial⟩
  · cases h

/-- A scenario in which some files cannot be read. -/
def storageScript (s : Scenario) (unreadable : Path → Bool) :
    Script (planned reference (storagePlan unreadable)) :=
  (s.script.override (readMove unreadable) (admits_readMove unreadable)).restrict fun c w => by
    cases c with
    | file c =>
        cases c with
        | readToString p => rfl
        | _ => trivial
    | _ => trivial

/-- The registry of one node. -/
def onlyNode (nodeId : NodeId) : Devices := { nodes := ({} : Devices).nodes.insert (nodeKey nodeId) {} }

/-- A host where node 1 is registered. -/
def oneRegistered : World := freshHost.put devicesPath (jsonFile reference.devicesJson (onlyNode 1))

theorem onlyNode_self (nodeId : NodeId) : (onlyNode nodeId).nodes[nodeKey nodeId]? = some {} :=
  Std.ExtTreeMap.getElem?_insert_self

theorem onlyNode_of_ne {nodeId other : NodeId} (h : other ≠ nodeId) :
    (onlyNode nodeId).nodes[nodeKey other]? = none := by
  rw [onlyNode, getElem?_insert_of_ne fun he => h (nodeKey_injective he)]
  exact Std.ExtTreeMap.getElem?_empty

end Scenario

open Scenario in
/-- **An update loses a record.**  Node 1 is registered, devices.json cannot be read just now, and node 2 is
updated: the file that is left has node 2 only. -/
theorem unreadable_registry_replaced :
    oneRegistered.files devicesPath = some (jsonFile reference.devicesJson (onlyNode 1)) ∧
      (onlyNode 1).nodes[nodeKey 1]? = some {} ∧
      ∃ tr w', Exec (planned reference (storagePlan fun p => decide (p = devicesPath)))
        (updateDevice reference devicesPath 2 (Patch.pure id).run).run oneRegistered tr (.done (.ok ())) w' ∧
        w'.files devicesPath = some (jsonFile reference.devicesJson (onlyNode 2)) ∧
        (onlyNode 2).nodes[nodeKey 1]? = none := by
  refine ⟨World.put_files_self _ _ _, onlyNode_self 1, ?_⟩
  have played := (updateDevice_patched 2 (Patch.pure id).talks oneRegistered).play
    (storageScript {} fun p => decide (p = devicesPath))
  have hx := (storageScript {} fun p => decide (p = devicesPath)).exec
    (updateDevice reference devicesPath 2 (Patch.pure id).run).run oneRegistered
  have hok : ((storageScript {} fun p => decide (p = devicesPath)).play
      (updateDevice reference devicesPath 2 (Patch.pure id).run).run oneRegistered).1 = .ok () := rfl
  rw [hok] at played hx
  obtain ⟨w₁, ⟨raw, devices, hraw, ⟨record, hrecord, rfl⟩, rfl⟩, same⟩ := played
  obtain rfl := reads_storagePlan.mp hraw
  refine ⟨_, _, hx, ?_, onlyNode_of_ne (by decide)⟩
  rw [same.at_ isState_devices, World.put_files_self]
  have hempty : registryOf reference (readUnder (fun p => decide (p = devicesPath)) oneRegistered.files
      devicesPath) = {} := registryUnder_unread (decide_eq_true rfl)
  rw [hempty] at hrecord ⊢
  obtain rfl : {} = record := Except.ok.inj hrecord
  rfl

/-! ## The abstract registry -/

/-- What is known of each node. -/
abbrev NodeMap := NodeId → Option DeviceRecord

/-- The two things that are done to the registry. -/
inductive RegistryOp where
  | update (nodeId : NodeId) (patch : Patch)
  | remove (nodeId : NodeId)

namespace RegistryOp

/-- Each by its own function. -/
def run (ext : Externals) : RegistryOp → Action Unit
  | .update nodeId patch => updateDevice ext devicesPath nodeId patch.run
  | .remove nodeId => removeDevice ext devicesPath nodeId

/-- One operation on the map: a record that is not there is patched from the empty one. -/
inductive Applies : RegistryOp → NodeMap → NodeMap → Prop
  | update {nodeId : NodeId} {patch : Patch} {m : NodeMap} {record : DeviceRecord}
      (patched : (patch.run ((m nodeId).getD {})).run.Yields (.ok record)) :
      Applies (.update nodeId patch) m (Function.update m nodeId (some record))
  | remove {nodeId : NodeId} {m : NodeMap} : Applies (.remove nodeId) m (Function.update m nodeId none)

end RegistryOp

/-- The operations one after the other. -/
inductive Folds : NodeMap → List RegistryOp → NodeMap → Prop
  | nil {m : NodeMap} : Folds m [] m
  | cons {op : RegistryOp} {ops : List RegistryOp} {m m₁ m₂ : NodeMap} (first : op.Applies m m₁)
      (rest : Folds m₁ ops m₂) : Folds m (op :: ops) m₂

/-- Run the operations, and stop at the first that fails. -/
def registryRun (ext : Externals) : List RegistryOp → Action Unit
  | [] => return ()
  | op :: ops => do
    op.run ext
    registryRun ext ops

/-- The registry has each node's record under its decimal id, and no other keys. -/
structure Represents (devices : Devices) (m : NodeMap) : Prop where
  get : ∀ nodeId, devices.nodes[nodeKey nodeId]? = m nodeId
  canonical : ∀ key ∈ devices.nodes, ∃ nodeId, key = nodeKey nodeId

section Represents

variable {devices : Devices} {m : NodeMap}

theorem represents_empty : Represents {} fun _ => none where
  get _ := Std.ExtTreeMap.getElem?_empty
  canonical _ h := absurd h Std.ExtTreeMap.not_mem_empty

theorem Represents.insert (h : Represents devices m) (nodeId : NodeId) (record : DeviceRecord) :
    Represents { nodes := devices.nodes.insert (nodeKey nodeId) record }
      (Function.update m nodeId (some record)) where
  get other := by
    by_cases hne : other = nodeId
    · subst hne
      rw [Function.update_self]
      exact Std.ExtTreeMap.getElem?_insert_self
    · rw [Function.update_of_ne hne, getElem?_insert_of_ne fun he => hne (nodeKey_injective he)]
      exact h.get other
  canonical key hkey := by
    rcases Std.ExtTreeMap.mem_insert.mp hkey with he | hold
    · exact ⟨nodeId, (Std.LawfulEqCmp.compare_eq_iff_eq.mp he).symm⟩
    · exact h.canonical key hold

theorem Represents.erase (h : Represents devices m) (nodeId : NodeId) :
    Represents { nodes := devices.nodes.erase (nodeKey nodeId) } (Function.update m nodeId none) where
  get other := by
    by_cases hne : other = nodeId
    · subst hne
      rw [Function.update_self]
      exact Std.ExtTreeMap.getElem?_erase_self
    · rw [Function.update_of_ne hne, getElem?_erase_of_ne fun he => hne (nodeKey_injective he)]
      exact h.get other
  canonical key hkey := h.canonical key (Std.ExtTreeMap.mem_erase.mp hkey).2

/-! ### Node ids -/

/-- Decimal ids that are parsed and written again. -/
theorem map_nodeKey_parseU64 {keys : List String} (h : ∀ key ∈ keys, ∃ nodeId, key = nodeKey nodeId) :
    (keys.filterMap parseU64).map nodeKey = keys := by
  induction keys with
  | nil => rfl
  | cons key keys ih =>
      obtain ⟨nodeId, rfl⟩ := h key List.mem_cons_self
      rw [List.filterMap_cons, parseU64_nodeKey, List.map_cons,
        ih fun k hk => h k (List.mem_cons_of_mem _ hk)]

theorem Represents.map_nodeIds (h : Represents devices m) :
    devices.nodeIds.map nodeKey = devices.nodes.keys :=
  map_nodeKey_parseU64 fun key hkey => h.canonical key (Std.ExtTreeMap.mem_of_mem_keys hkey)

theorem Represents.nodup_nodeIds (h : Represents devices m) : devices.nodeIds.Nodup := by
  apply List.Nodup.of_map nodeKey
  rw [h.map_nodeIds]
  exact Std.ExtTreeMap.nodup_keys

theorem Represents.mem_nodeIds (h : Represents devices m) (nodeId : NodeId) :
    nodeId ∈ devices.nodeIds ↔ (m nodeId).isSome = true := by
  rw [← List.mem_map_of_injective nodeKey_injective, h.map_nodeIds, Std.ExtTreeMap.mem_keys,
    ← h.get nodeId, Std.ExtTreeMap.isSome_getElem?_iff_mem]

end Represents

/-! ## The file follows the map -/

section Follows

variable {ext : Externals} {plan : (c : Call) → c.Move → Prop} {w w' : World} {m : NodeMap}

theorem reads_of_smooth (smooth : Smooth plan) {p : Path} {raw : Except IoError String}
    (h : Reads plan w.files p raw) : raw = readText w.files p := by
  obtain ⟨⟨later, io⟩, hm, rfl⟩ := h
  obtain rfl : io = .succeed := smooth _ _ hm
  rfl

/-- Without faults devices.json is loaded as it is. -/
theorem loadOrDefault_smooth (smooth : Smooth plan) (w : World) :
    Safe (planned ext plan) w.Same (loadOrDefault ext devicesPath).run
      (fun r _ => r = .ok (w.registry ext)) w := by
  refine (loadOrDefault_spec w).mono (fun _ h => h) ?_
  rintro r w' - ⟨raw, rfl, hraw⟩
  rw [reads_of_smooth smooth hraw]
  rfl

theorem registry_of_seen {change : Devices → Devices → Prop} (smooth : Smooth plan)
    (seen : SeenChanged ext plan w change w') : change (w.registry ext) (w'.registry ext) := by
  obtain ⟨w₁, ⟨raw, devices, hraw, hchange, rfl⟩, same⟩ := seen
  obtain rfl := reads_of_smooth smooth hraw
  rw [same.registry, World.registry_put]
  exact hchange

/-- A node's record, if devices.json has one. -/
def World.record (ext : Externals) (w : World) (nodeId : NodeId) : Option DeviceRecord :=
  (w.registry ext).nodes[nodeKey nodeId]?

/-- devices.json has under every key but the node's own what it had. -/
def KeepsOthers (ext : Externals) (nodeId : NodeId) (w w' : World) : Prop :=
  ∀ key, key ≠ nodeKey nodeId → (w'.registry ext).nodes[key]? = (w.registry ext).nodes[key]?

theorem KeepsOthers.record {nodeId other : NodeId} (h : KeepsOthers ext nodeId w w') (hne : other ≠ nodeId) :
    w'.record ext other = w.record ext other := h _ fun he => hne (nodeKey_injective he)

theorem KeepsOthers.trans {nodeId : NodeId} {w'' : World} (h : KeepsOthers ext nodeId w w')
    (h' : KeepsOthers ext nodeId w' w'') : KeepsOthers ext nodeId w w'' :=
  fun key hne => (h' key hne).trans (h key hne)

theorem keepsOthers_same (nodeId : NodeId) (h : w.Same w') : KeepsOthers ext nodeId w w' := by
  intro key _
  rw [h.registry]

theorem record_same (h : w.Same w') : w'.record ext = w.record ext := by
  funext nodeId
  rw [World.record, h.registry, World.record]

/-- An update without faults: the node has what the patch made of its record. -/
theorem updateDevice_record (smooth : Smooth plan) (nodeId : NodeId) (patch : Patch) (w : World) :
    Safe (planned ext plan) (fun _ => True) (updateDevice ext devicesPath nodeId patch.run).run
      (fun r w' => r = .ok () ∧ KeepsOthers ext nodeId w w' ∧
        ∃ record, (patch.run ((w.record ext nodeId).getD {})).run.Yields (.ok record) ∧
          w'.record ext nodeId = some record) w := by
  refine (updateDevice_patched nodeId patch.talks w).mono (fun _ _ => trivial) fun r w' _ made => ?_
  cases r with
  | error e =>
      obtain ⟨d, yields⟩ := made.2 smooth
      exact absurd yields patch.not_yields_error
  | ok u =>
      obtain ⟨record, yields, hnew⟩ := registry_of_seen smooth made
      rw [Std.ExtTreeMap.getD_eq_getD_getElem?] at yields
      refine ⟨rfl, fun key hne => ?_, record, yields, ?_⟩
      · rw [hnew]
        exact getElem?_insert_of_ne hne record
      · rw [World.record, hnew]
        exact Std.ExtTreeMap.getElem?_insert_self

/-- A removal without faults. -/
theorem removeDevice_record (smooth : Smooth plan) (nodeId : NodeId) (w : World) :
    Safe (planned ext plan) (fun _ => True) (removeDevice ext devicesPath nodeId).run
      (fun r w' => r = .ok () ∧ KeepsOthers ext nodeId w w' ∧ w'.record ext nodeId = none) w := by
  refine (removeDevice_made nodeId w).mono (fun _ _ => trivial) fun r w' _ made => ?_
  cases r with
  | error e => exact (made.2 smooth).elim
  | ok u =>
      have hnew : w'.registry ext = { nodes := (w.registry ext).nodes.erase (nodeKey nodeId) } :=
        registry_of_seen smooth made
      refine ⟨rfl, fun key hne => ?_, ?_⟩
      · rw [hnew]
        exact getElem?_erase_of_ne hne
      · rw [World.record, hnew]
        exact Std.ExtTreeMap.getElem?_erase_self

/-- **One operation** does to the file what it does to the map. -/
theorem registryOp_spec (smooth : Smooth plan) (op : RegistryOp) (h : Represents (w.registry ext) m) :
    Safe (planned ext plan) (fun _ => True) (op.run ext).run
      (fun r w' => r = .ok () ∧ ∃ m', op.Applies m m' ∧ Represents (w'.registry ext) m') w := by
  cases op with
  | update nodeId patch =>
      refine (updateDevice_patched nodeId patch.talks w).mono (fun _ _ => trivial) fun r w' _ made => ?_
      cases r with
      | error e =>
          obtain ⟨d, yields⟩ := made.2 smooth
          exact absurd yields patch.not_yields_error
      | ok u =>
          obtain ⟨record, yields, hnew⟩ := registry_of_seen smooth made
          rw [Std.ExtTreeMap.getD_eq_getD_getElem?, h.get] at yields
          refine ⟨rfl, _, .update yields, ?_⟩
          rw [hnew]
          exact h.insert nodeId record
  | remove nodeId =>
      refine (removeDevice_made nodeId w).mono (fun _ _ => trivial) fun r w' _ made => ?_
      cases r with
      | error e => exact (made.2 smooth).elim
      | ok u =>
          have hnew : Devices.Erased nodeId (w.registry ext) (w'.registry ext) :=
            registry_of_seen smooth made
          refine ⟨rfl, _, .remove, ?_⟩
          rw [show w'.registry ext = _ from hnew]
          exact h.erase nodeId

/-- A whole sequence, by induction on it. -/
theorem registryRun_spec (smooth : Smooth plan) (ops : List RegistryOp)
    (h : Represents (w.registry ext) m) :
    Safe (planned ext plan) (fun _ => True) (registryRun ext ops).run
      (fun r w' => r = .ok () ∧ ∃ m', Folds m ops m' ∧ Represents (w'.registry ext) m') w := by
  induction ops generalizing w m with
  | nil => exact safe_run_pure.mpr ⟨trivial, rfl, m, .nil, h⟩
  | cons op ops ih =>
      refine (registryOp_spec smooth op h).run_bind (fun _ _ => trivial) (fun _ w₁ _ h₁ => ?_)
        fun e w₁ _ h₁ => ?_
      · obtain ⟨-, m₁, applies, h₁⟩ := h₁
        refine (ih h₁).mono (fun _ h => h) ?_
        rintro r w' - ⟨rfl, m₂, folds, h₂⟩
        exact ⟨rfl, m₂, .cons applies folds, h₂⟩
      · cases h₁.1

end Follows

/-! ## The selectors -/

/-- The registered ids that pass the option. -/
def selected (target : Option NodeId) (devices : Devices) : List NodeId :=
  devices.nodeIds.filter fun nodeId => target.all (· = nodeId)

/-- Filtering the keys and parsing them commute. -/
theorem filterMap_filter_keeps (filter : Option NodeId) (keys : List String) :
    (keys.filter (keeps filter)).filterMap parseU64 =
      (keys.filterMap parseU64).filter fun nodeId => filter.all (· = nodeId) := by
  rw [List.filterMap_filter, List.filter_filterMap]
  congr 1
  funext key
  cases filter with
  | none => cases hkey : parseU64 key <;> simp [keeps, Option.filter]
  | some node => cases hkey : parseU64 key <;> simp [keeps, hkey, eq_comm, Option.filter]

/-- What `status` lists are the selected ids. -/
theorem listNodes_nodeIds (filter : Option NodeId) (devices : Devices) :
    (listNodes filter devices).map (·.nodeId) = selected filter devices := by
  have hlisting : ∀ entry : String × DeviceRecord,
      (listingOf entry.1 entry.2).map (·.nodeId) = parseU64 entry.1 := by
    intro entry
    simp [listingOf, Function.comp_def]
  rw [selected, Devices.nodeIds, ← filterMap_filter_keeps, ← Std.ExtTreeMap.map_fst_toList_eq_keys,
    List.filter_map, List.filterMap_map, listNodes, List.map_filterMap]
  exact congrArg (fun f => List.filterMap f _) (funext hlisting)

/-- One id out of a list without duplicates. -/
theorem selected_some {devices : Devices} (hnodup : devices.nodeIds.Nodup) (node : NodeId) :
    selected (some node) devices = if devices.nodeIds.contains node then [node] else [] := by
  have hfilter : selected (some node) devices = devices.nodeIds.filter (· == node) := by
    simp [selected, beq_eq_decide, eq_comm]
  rw [hfilter, List.filter_beq]
  split
  · rename_i hmem
    rw [List.count_eq_one_of_mem hnodup (List.contains_iff_mem.mp hmem), List.replicate_one]
  · rename_i hmem
    rw [List.count_eq_zero.mpr fun h => hmem (List.contains_iff_mem.mpr h), List.replicate_zero]

section Selectors

variable {ext : Externals} {plan : (c : Call) → c.Move → Prop} {w : World}

/-- Without faults, `status` lists the devices of the registry that pass the filter. -/
theorem runStatus_spec (smooth : Smooth plan) (config : Config) (filter : Option NodeId) (w : World) :
    Safe (planned ext plan) (fun _ => True) (runStatus ext config filter).run
      (fun r _ => ∃ report, r = .ok (.status report) ∧
        report.nodes = listNodes filter (w.registry ext)) w := by
  unfold runStatus
  refine Safe.ask_bind trivial fun m _ => ?_
  have h₁ : w.Same ((planned ext plan).next .now w m) := quiet_next (by trivial) w m
  refine (loadOrDefault_smooth smooth _).run_bind (fun _ _ => trivial) (fun devices w₂ _ read => ?_)
    fun e w₂ _ read => (by cases read)
  obtain rfl := Except.ok.inj read
  rw [h₁.registry]
  refine safe_of_returns ?_ w₂
  refine (succeeds_identityStatus ext).returns_bind fun identity => ?_
  refine (Succeeds.ask _).returns_bind fun initialized => ?_
  refine (Succeeds.ask _).returns_bind fun ntp => ?_
  have clock : Succeeds matterNow := (Succeeds.ask _).bind fun _ => .pure _
  exact clock.returns_bind fun micros => Program.returns_done.mpr ⟨_, rfl, rfl⟩

/-- Without faults, the targets are the selected ids, and asking for a node that is not registered is an
error. -/
theorem resolveOrEmpty_spec (smooth : Smooth plan) (target : Option NodeId)
    (hnodup : (w.registry ext).nodeIds.Nodup) :
    Safe (planned ext plan) (fun _ => True) (resolveOrEmpty ext target).run
      (fun r _ => if target.isSome ∧ selected target (w.registry ext) = [] then ∃ e, r = .error e
        else r = .ok (selected target (w.registry ext))) w := by
  refine (loadOrDefault_smooth smooth w).run_bind (fun _ _ => trivial) (fun devices w₁ _ read => ?_)
    fun e w₁ _ read => (by cases read)
  obtain rfl := Except.ok.inj read
  cases target with
  | none => exact safe_run_pure.mpr ⟨trivial, by simp [selected]⟩
  | some node =>
      rw [selected_some hnodup]
      dsimp only
      split
      · exact safe_run_pure.mpr ⟨trivial, by simp⟩
      · exact safe_run_throw.mpr ⟨trivial, by simp⟩

end Selectors

/-- What is to be seen of the map in a world: devices.json loads as it, each registered id is enumerated
once, and `status` lists the ids that targets are resolved to, none where a requested node is unknown. -/
structure ShowsMap (ext : Externals) (config : Config) (plan : (c : Call) → c.Move → Prop) (m : NodeMap)
    (w : World) (devices : Devices) : Prop where
  loads : Safe (planned ext plan) (fun _ => True) (loadOrDefault ext devicesPath).run
    (fun r _ => r = .ok devices) w
  represents : Represents devices m
  nodup : devices.nodeIds.Nodup
  mem : ∀ nodeId, nodeId ∈ devices.nodeIds ↔ (m nodeId).isSome = true
  lists : ∀ option, Safe (planned ext plan) (fun _ => True) (runStatus ext config option).run
    (fun r _ => ∃ report, r = .ok (.status report) ∧
      report.nodes.map (·.nodeId) = selected option devices) w
  resolves : ∀ option, Safe (planned ext plan) (fun _ => True) (resolveOrEmpty ext option).run
    (fun r _ => if option.isSome ∧ selected option devices = [] then ∃ e, r = .error e
      else r = .ok (selected option devices)) w

/-- **The registry file refines a map.**  From a missing devices.json on and without faults, any sequence
of updates and removals succeeds, and leaves a file that shows the map they fold to. -/
theorem registry_refines_map (ext : Externals) (config : Config) {plan : (c : Call) → c.Move → Prop}
    (smooth : Smooth plan) {w : World} (missing : w.files devicesPath = none) (ops : List RegistryOp) :
    Safe (planned ext plan) (fun _ => True) (registryRun ext ops).run
      (fun r w' => r = .ok () ∧
        ∃ m devices, Folds (fun _ => none) ops m ∧ ShowsMap ext config plan m w' devices) w := by
  have start : Represents (w.registry ext) fun _ => none := by
    rw [World.registry, readText_none missing]
    exact represents_empty
  refine (registryRun_spec smooth ops start).mono (fun _ h => h) ?_
  rintro r w' - ⟨rfl, m, folds, h⟩
  refine ⟨rfl, m, w'.registry ext, folds, ?_⟩
  exact {
    loads := (loadOrDefault_smooth smooth w').mono (fun _ _ => trivial) fun _ _ _ h => h
    represents := h
    nodup := h.nodup_nodeIds
    mem := h.mem_nodeIds
    lists := fun option => (runStatus_spec smooth config option w').mono (fun _ h => h) (by
      rintro r _ - ⟨report, rfl, hnodes⟩
      exact ⟨report, rfl, by rw [hnodes, listNodes_nodeIds]⟩)
    resolves := fun option => resolveOrEmpty_spec smooth option h.nodup_nodeIds }

namespace Scenario

theorem record_oneRegistered : oneRegistered.record reference 1 = some {} := by
  have file : oneRegistered.files devicesPath = some (jsonFile reference.devicesJson (onlyNode 1)) :=
    World.put_files_self _ _ _
  rw [World.record, World.registry, readText_jsonFile file, registryOf, reference.devicesJson.decode_encode]
  exact onlyNode_self 1

/-- Nothing goes wrong on this side. -/
abbrev faultless : (c : Call) → c.Move → Prop := fun c m => Faultless c m.choice

/-- Note an error for nodes 2 and 10, and forget node 2 again. -/
def noteAndForget : List RegistryOp :=
  [.update 2 (.pure fun d => { d with lastError := some "offline" }),
    .update 10 (.pure fun d => { d with lastError := some "offline" }), .remove 2]

end Scenario

open Scenario in
theorem note_and_forget_shown :
    Safe (planned reference fun c m => Faultless c m.choice) (fun _ => True)
      (registryRun reference noteAndForget).run
      (fun r w' => r = .ok () ∧ ∃ m devices, Folds (fun _ => none) noteAndForget m ∧
        ShowsMap reference config (fun c m => Faultless c m.choice) m w' devices) freshHost :=
  registry_refines_map reference config (fun _ _ h => h) rfl noteAndForget

end MatterTimeCtl
