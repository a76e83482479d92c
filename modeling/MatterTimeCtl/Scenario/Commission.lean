/-
# MatterTimeCtl.Scenario.Commission — commissions that succeed, one after the other.

The default scenario joins a device, records it and moves the counter on.  `Fleet` is what that leaves of the
storage: it starts as the storage of a host with a fabric and no device, and each commission adds one.
-/
import MatterTimeCtl.Scenario.Storage

namespace MatterTimeCtl

open Files Effect

theorem World.Alike.enroll {w w' : World} (h : w.Alike w') (nodeId : NodeId) (f : Fabric) :
    (w.enroll reference nodeId f).Alike (w'.enroll reference nodeId f) :=
  ⟨(h.same.assign reference nodeId).join nodeId f, h.mode⟩

namespace Scenario

variable {s : Scenario} {w w₁ : World}

/-! ## A commission that succeeds -/

/-- What a commissioning leaves: the device joined, its record, and the counter moved on. -/
def withDevice (w : World) (i : Identity) (record : DeviceRecord) : World :=
  ((w.enroll reference i.nextDeviceNodeId fabric).put devicesPath (jsonFile reference.devicesJson
    { nodes := (w.registry reference).nodes.insert (nodeKey i.nextDeviceNodeId) record })).put identityPath
    (jsonFile reference.identityJson i.counted)

/-- How CommissioningComplete ends decides how the joining does. -/
theorem ends_join_of_complete {i : Identity} (key : i.rcacPrivkeyHex = hexEncode Reference.keyOne.toList)
    {r : Except Failure Unit} (complete : ∀ v, (w.assign reference i.nextDeviceNodeId).Alike v →
      s.Ends (withTimeout "CommissioningComplete over CASE" commissionTimeoutSecs
        (.completeViaCase "[fe80::7]:5540" fabric i.nextDeviceNodeId)) v r w₁) :
    s.Ends (CommissionOp.join { Scenario.ctx with identity := i } onboarding) w
      (r.map fun _ => i.nextDeviceNodeId) w₁ := by
  have hkey : orFail id i.rcacPrivkey = pure Reference.keyOne := by
    rw [Identity.rcacPrivkey_hexEncode key]
    rfl
  unfold CommissionOp.join
  refine Ends.bind (a := "[fe80::7]:5540") (v := w) ⟨w, rfl, .refl w⟩ fun w₁ h₁ => ?_
  refine Ends.bind (a := Reference.keyOne) (v := w) ?_ fun w₂ h₂ => ?_
  · rw [hkey]
    exact ⟨w₁, rfl, h₁⟩
  refine Ends.bind (a := ()) (v := w) ⟨w₂, rfl, h₂⟩ fun w₃ h₃ => ?_
  refine Ends.bind (a := ()) (v := w.assign reference i.nextDeviceNodeId)
    ⟨w₃.assign reference i.nextDeviceNodeId, rfl, h₃.same.assign reference _, h₃.mode⟩ fun w₄ h₄ => ?_
  cases r with
  | ok u => exact Ends.bind (complete w₄ h₄) fun w₅ h₅ => ⟨w₅, rfl, h₅⟩
  | error e => exact Ends.bind_error (complete w₄ h₄)

/-- The device joins, whatever its reply is and whenever it arrives. -/
theorem alike_enroll {v : World} {n : NodeId} (h : (w.assign reference n).Alike v) (at_ : Timestamp) :
    (w.enroll reference n fabric).Alike { v.join n fabric with clock := at_ } :=
  ⟨same_clock (h.same.join _ _) _, h.mode⟩

/-- The default scenario. -/
def works : Scenario := {}

theorem ends_join {i : Identity} (key : i.rcacPrivkeyHex = hexEncode Reference.keyOne.toList) (w : World) :
    works.Ends (CommissionOp.join { Scenario.ctx with identity := i } onboarding) w (.ok i.nextDeviceNodeId)
      (w.enroll reference i.nextDeviceNodeId fabric) :=
  ends_join_of_complete (r := .ok ()) key fun _ h => ⟨_, rfl, alike_enroll h _⟩

theorem ends_readDeviceNames (ctx : Ctx) (nodeId : NodeId) (w : World) :
    works.Ends (readDeviceNames reference ctx nodeId) w
      (.ok (some (sanitize "Acme"), some (sanitize "Clock"))) w := by
  have vendor : ∀ w, works.Ends (readVendorName reference ctx nodeId) w (.ok (sanitize "Acme")) w := fun w =>
    Ends.bind (ends_request _ (fun _ => rfl) w) fun w₁ h₁ => ⟨w₁, rfl, h₁⟩
  have product : ∀ w, works.Ends (readProductName reference ctx nodeId) w (.ok (sanitize "Clock")) w := fun w =>
    Ends.bind (ends_request _ (fun _ => rfl) w) fun w₁ h₁ => ⟨w₁, rfl, h₁⟩
  refine Ends.attempt (vendor w) fun w₁ h₁ => ?_
  exact Ends.attempt ((product w₁).alike h₁) fun w₂ h₂ => ⟨w₂, rfl, h₂⟩

theorem ends_commission {i : Identity} (key : i.rcacPrivkeyHex = hexEncode Reference.keyOne.toList) (w : World) :
    ∃ outcome record, works.Ends (CommissionOp.run reference { Scenario.ctx with identity := i } onboarding) w
      (.ok outcome) (withDevice w i record) := by
  obtain ⟨w₁, hjoin, h₁⟩ := ends_join key w
  obtain ⟨w₂, hnames, h₂⟩ := ends_readDeviceNames { Scenario.ctx with identity := i } i.nextDeviceNodeId w₁
  have at_ := h₁.trans h₂
  have hreg : w₂.registry reference = w.registry reference := at_.same.registry
  let vendorName := some (sanitize "Acme")
  let productName := some (sanitize "Clock")
  let record : DeviceRecord := { (w₂.registry reference).nodes.getD (nodeKey i.nextDeviceNodeId) {} with
    vendorName, productName, lastSuccessfulConnection := some w₂.clock }
  refine ⟨{ nodeId := i.nextDeviceNodeId, fabricId := i.fabricId, vendorName, productName }, record,
    Ends.bind_eq hjoin ?_⟩
  unfold CommissionOp.record
  refine Ends.bind_eq hnames ?_
  have patched : works.Ends (do
      let now ← ask .now
      return { (w₂.registry reference).nodes.getD (nodeKey i.nextDeviceNodeId) {} with
        vendorName, productName, lastSuccessfulConnection := some now }) w₂ (.ok record) w₂ :=
    ⟨{ w₂ with sampled := w₂.clock }, rfl, ⟨.refl _ _, rfl⟩, id⟩
  refine Ends.bind (ends_updateDevice patched) fun w₃ h₃ => ?_
  refine Ends.bind (ends_store not_isState_identityTmp isState_identity _ _ w₃) fun w₄ h₄ => ?_
  refine ⟨w₄, rfl, ?_⟩
  rw [hreg] at h₃
  exact (((at_.put _ _).trans h₃).put _ _).trans h₄

/-- The storage has the fabric and this identity, these devices were joined, the registry has their records, and
nothing is owed. -/
structure Fleet (i : Identity) (ids : List NodeId) (w : World) : Prop where
  established : Established w i
  joined : w.history.joined.map Prod.fst = ids
  recorded : ∀ n ∈ ids, nodeKey n ∈ (w.registry reference).nodes
  settled : w.history.owed = false

theorem Fleet.alike {i : Identity} {ids : List NodeId} (h : Fleet i ids w) (hw : w.Alike w₁) : Fleet i ids w₁ where
  established := h.established.agree hw.same.files
  joined := by rw [hw.same.history, h.joined]
  recorded := by
    rw [hw.same.registry]
    exact h.recorded
  settled := by rw [hw.same.history, h.settled]

/-- One device more. -/
theorem Fleet.commissioned {i : Identity} {ids : List NodeId} (h : Fleet i ids w) (record : DeviceRecord)
    (op : Op) (r : Except Failure op.Out) :
    Fleet i.counted (i.nextDeviceNodeId :: ids) ((withDevice w i record).report op r) := by
  have hreg : ((withDevice w i record).report op r).registry reference =
      { nodes := (w.registry reference).nodes.insert (nodeKey i.nextDeviceNodeId) record } :=
    (World.registry_put_of_ne _ devices_ne_identity _).trans (World.registry_put _ _)
  have hfiles : ((withDevice w i record).report op r).files =
      (withDevice w i record).files := rfl
  refine ⟨⟨?_, ?_, fun j hj => ?_⟩, ?_, fun n hn => ?_, ?_⟩
  all_goals try rw [hfiles, withDevice]
  · exact World.put_files_self _ _ _
  · rw [World.put_files_of_ne _ (identity_ne_fabric _).symm, World.put_files_of_ne _ (devices_ne_fabric _).symm]
    exact h.established.blob
  · rw [World.put_files_of_ne _ (identity_ne_fabric _).symm, World.put_files_of_ne _ (devices_ne_fabric _).symm]
    exact h.established.others j hj
  · show ((withDevice w i record).history.joined).map Prod.fst = _
    rw [withDevice, World.put, if_pos rfl, World.put, if_neg devices_ne_identity, ← h.joined]
    rfl
  · rw [hreg, Std.ExtTreeMap.mem_insert]
    rcases List.mem_cons.mp hn with rfl | hn
    · exact .inl (by simp)
    · exact .inr (h.recorded n hn)
  · show ((withDevice w i record).history).owed = false
    rw [withDevice, World.put, if_pos rfl]

theorem Fleet.hasIdentity {i : Identity} {ids : List NodeId} (h : Fleet i ids w) : HasIdentity reference w i :=
  ⟨_, readText_jsonFile h.established.identity, reference.identityJson.decode_encode _⟩

/-- The identity once the first device has joined. -/
abbrev afterOne : Identity := first.counted

/-- The identity once both have joined. -/
abbrev afterTwo : Identity := afterOne.counted

theorem fleet_first : Fleet first [] (freshHost.complete reference fabric first) :=
  ⟨established_complete (fun _ => rfl) first, rfl, fun _ h => (nomatch h), rfl⟩

/-- What ensures the fabric of a new host, and that of a fleet. -/
theorem ends_ensureFabric_first (hw : freshHost.Alike w) : s.Ends (ensureFabric reference config []) w
    (.ok ([fabric], fabric.fabIdx, first)) (freshHost.complete reference fabric first) :=
  (ends_ensureFabric_fresh (hw.same.at_ isState_identity) (hw.same.at_ isState_devices)).alike ((hw.put _ _).put _ _)

theorem Established.ends_ensureFabric {i : Identity} (h : Established w i) (hw : w.Alike w₁) :
    s.Ends (ensureFabric reference config [fabric]) w₁ (.ok ([fabric], fabric.fabIdx, i)) w :=
  (ends_ensureFabric_found rfl (by rw [hw.same.at_ isState_identity, h.identity])).alike hw

/-- A run of `commission` that adds a device. -/
theorem session_commission {loaded : List Fabric} {i : Identity} {ids : List NodeId} {w₀ : World}
    (ready : w.storageMode = none ∨ (w.files identityPath).isSome = true)
    (load : reference.loadFabrics (blobsOf w.files) = .ok loaded)
    (ensure : ∀ w', w.Alike w' → works.Ends (ensureFabric reference config loaded) w'
      (.ok ([fabric], fabric.fabIdx, i)) w₀)
    (key : i.rcacPrivkeyHex = hexEncode Reference.keyOne.toList) (fleet : Fleet i ids w₀)
    {P : Prog (Except Failure Output) → Prop} (hP : P (runCommission reference config onboarding).run) :
    ∃ w', Session anything P w w' ∧ Fleet i.counted (i.nextDeviceNodeId :: ids) w' := by
  have private_ : w.Alike { w with storageMode := some privateMode } := ⟨⟨.refl _ _, rfl⟩, fun _ => rfl⟩
  obtain ⟨r, w₁, ⟨w₂, played, h₂⟩, ⟨outcome, rfl⟩, fleet'⟩ :
      ∃ r w₁, works.Ends (run reference config (.commission onboarding)) w r
          (World.report w₁ (.commission onboarding) r) ∧
        (∃ outcome, r = .ok outcome) ∧
          Fleet i.counted (i.nextDeviceNodeId :: ids) (World.report w₁ (.commission onboarding) r) :=
    exists_ends_run ready fun w' hw' => by
      have load' : reference.loadFabrics (blobsOf w'.files) = .ok loaded := by rwa [hw'.same.blobs]
      obtain ⟨w₂, hsetUp, h₂⟩ := ends_setUp (s := works) (c := config) load' fun w'' hw'' =>
        ensure w'' (private_.trans (hw'.trans hw''))
      obtain ⟨outcome, record, ends⟩ := ends_commission key w₂
      refine ⟨.ok outcome, _, ?_, ⟨outcome, rfl⟩, (fleet.alike h₂).commissioned record _ _⟩
      rw [runLocked_eq]
      exact Ends.bind_eq hsetUp ends
  have session := works.anyPlan.session (w := w) hP
  rw [play_anyPlan, runCommission, Script.play_run_bind _ (by rw [played]), played] at session
  exact ⟨w₂, session, fleet'.alike h₂⟩

end Scenario

end MatterTimeCtl
