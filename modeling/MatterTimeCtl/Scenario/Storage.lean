/-
# MatterTimeCtl.Scenario.Storage — what a scenario does with the storage.

The played runs of the parts of the program that read and write state files, as equations and up to what
a later run can see.  `Ends` is the judgement: the part returns this result, and leaves a world that looks
like the given one.
-/
import MatterTimeCtl.Scenario
import MatterTimeCtl.Storage.Operate

namespace MatterTimeCtl

open Files Effect

/-- The same to a later run, with a storage directory if there was one. -/
structure World.Alike (w w' : World) : Prop where
  same : w.Same w'
  mode : w.storageMode.isSome → w'.storageMode.isSome

theorem World.Alike.refl (w : World) : w.Alike w := ⟨.refl w, id⟩

theorem World.Alike.trans {w w' w'' : World} (h : w.Alike w') (h' : w'.Alike w'') : w.Alike w'' :=
  ⟨h.same.trans h'.same, fun hm => h'.mode (h.mode hm)⟩

theorem World.Alike.put {w w' : World} (h : w.Alike w') (p : Path) (bytes : ByteArray) :
    (w.put p bytes).Alike (w'.put p bytes) := ⟨h.same.put p bytes, h.mode⟩

theorem World.Alike.report {w w' : World} (h : w.Alike w') (op : Op) (r : Except Failure op.Out) :
    (w.report op r).Alike (w'.report op r) := by
  refine ⟨⟨h.same.files, ?_⟩, h.mode⟩
  simp only [World.report, h.same.history]

namespace Scenario

variable (s : Scenario) {α β : Type}

/-! ## What a scenario does with a call -/

@[simp] theorem play_file (c : FileCall Path) (next : (Call.file c).Answer → Prog α) (w : World) :
    s.script.play (.call (.file c) next) w = s.script.play (next (c.answer w.files .succeed))
      { w with files := c.next w.files .succeed, history := w.history.afterFile reference w.files c } :=
  rfl

@[simp] theorem play_dir (c : DirCall) (next : (Call.dir c).Answer → Prog α) (w : World) :
    s.script.play (.call (.dir c) next) w = s.script.play (next (dirAnswer w c (s.choice w (.dir c))))
      (dirEffect w c (s.choice w (.dir c))) := by
  cases c with
  | createAll d | createWithMode d mode | setPermissions d mode => cases d <;> rfl
  | _ => rfl

@[simp] theorem play_crypto (c : CryptoCall) (next : (Call.crypto c).Answer → Prog α) (w : World) :
    s.script.play (.call (.crypto c) next) w = s.script.play (next (computed c)) w := rfl

@[simp] theorem play_fillBytes (n : Nat) (next : (Call.fillBytes n).Answer → Prog α) (w : World) :
    s.script.play (.call (.fillBytes n) next) w = s.script.play (next (Vector.replicate n 0)) w := rfl

@[simp] theorem play_loadPersist (next : Call.loadPersist.Answer → Prog α) (w : World) :
    s.script.play (.call .loadPersist next) w =
      s.script.play (next (reference.loadFabrics (blobsOf w.files))) w := rfl

@[simp] theorem play_unlock (op : Op) (result : Except Failure op.Out) (next : Unit → Prog α)
    (w : World) :
    s.script.play (.call (.unlock op result) next) w = s.script.play (next ()) (w.report op result) := rfl

/-! ## Ends -/

/-- The part of the program returns `r` and leaves a world like `w₁`. -/
def Ends (x : Action α) (w : World) (r : Except Failure α) (w₁ : World) : Prop :=
  ∃ w', s.script.play x.run w = (r, w') ∧ w₁.Alike w'

variable {s} {w w₁ w₂ : World}

theorem Ends.of_eq {x : Action α} {r : Except Failure α} (h : s.script.play x.run w = (r, w₁)) :
    s.Ends x w r w₁ := ⟨w₁, h, .refl w₁⟩

theorem Ends.alike {x : Action α} {r : Except Failure α} (h : s.Ends x w r w₁) (h' : w₂.Alike w₁) :
    s.Ends x w r w₂ := by
  obtain ⟨w', hplay, hw'⟩ := h
  exact ⟨w', hplay, h'.trans hw'⟩

/-- One part that ends with a value, after another. -/
theorem Ends.bind {x : Action α} {f : α → Action β} {a : α} {v : World} {r : Except Failure β}
    (hx : s.Ends x w (.ok a) v) (hf : ∀ w', v.Alike w' → s.Ends (f a) w' r w₁) :
    s.Ends (x >>= f) w r w₁ := by
  obtain ⟨w', hplay, hw'⟩ := hx
  obtain ⟨w'', hplay', hw''⟩ := hf w' hw'
  refine ⟨w'', ?_, hw''⟩
  rw [Script.play_run_bind _ (by rw [hplay]), hplay, hplay']

/-- The same where the world in between is known. -/
theorem Ends.bind_eq {x : Action α} {f : α → Action β} {a : α} {v : World} {r : Except Failure β}
    (hx : s.script.play x.run w = (.ok a, v)) (hf : s.Ends (f a) v r w₁) : s.Ends (x >>= f) w r w₁ := by
  obtain ⟨w', hplay, hw'⟩ := hf
  refine ⟨w', ?_, hw'⟩
  rw [Script.play_run_bind _ (by rw [hx]), hx, hplay]

theorem Ends.bind_error {x : Action α} {f : α → Action β} {e : Failure}
    (hx : s.Ends x w (.error e) w₁) : s.Ends (x >>= f) w (.error e) w₁ := by
  obtain ⟨w', hplay, hw'⟩ := hx
  refine ⟨w', ?_, hw'⟩
  rw [Effect.run_bind, Script.play_bind, hplay]
  rfl

/-- A part whose result is handed on. -/
theorem Ends.attempt {x : Action α} {f : Except Failure α → Action β} {a : Except Failure α}
    {r : Except Failure β} (hx : s.Ends x w a w₁) (hf : ∀ w', w₁.Alike w' → s.Ends (f a) w' r w₂) :
    s.Ends (attempt x >>= f) w r w₂ := by
  obtain ⟨w', hplay, hw'⟩ := hx
  obtain ⟨w'', hplay', hw''⟩ := hf w' hw'
  refine ⟨w'', ?_, hw''⟩
  rw [run_attempt_bind, Script.play_bind, hplay, hplay']

/-- A whole program as a session. -/
theorem Ends.session {x : Action α} {r : Except Failure α} (h : s.Ends x w r w₁)
    {P : Prog (Except Failure α) → Prop} (hP : P x.run) :
    ∃ w', Session (system reference) P w w' ∧ w₁.Alike w' := by
  obtain ⟨w', hplay, hw'⟩ := h
  have hx := s.script.session (w := w) hP
  rw [hplay] at hx
  exact ⟨w', hx, hw'⟩

/-- What a scenario does can happen. -/
theorem Ends.can {x : Action α} {r : Except Failure α} (h : s.Ends x w r w₁) :
    Can anything x.run (fun r' w' => r' = r ∧ w₁.Alike w') w := by
  obtain ⟨w', hplay, hw'⟩ := h
  have run := s.anyPlan.exec x.run w
  rw [play_anyPlan, hplay] at run
  exact run.can ⟨rfl, hw'⟩

theorem Ends.pure (a : α) (w : World) : s.Ends (Pure.pure a) w (.ok a) w := .of_eq rfl

/-! ## Writing -/

/-- The directory exists. -/
def made (w : World) (d : Dir) : World := dirEffect w (.createAll d) .succeed

theorem alike_made (w : World) (d : Dir) : w.Alike (made w d) := by
  refine ⟨sameOn_dirEffect w _ _, fun h => ?_⟩
  cases d with
  | storage => rfl
  | matter => exact h

theorem play_writePrivate (t : Path) (bytes : ByteArray) (w : World) :
    s.script.play (writePrivate t bytes).run w =
      (.ok (), { w with files := Function.update w.files t (some (bytes ++ "\n".toUTF8)) }) := by
  unfold writePrivate
  simp only [Effect.run_bind, run_ask, Program.call_bind, Program.done_bind, continueWith_ok, play_file,
    FileCall.answer, FileCall.next, run_orFail_ok, Script.play_done, onExisting, Function.update_self,
    Option.map_some, Function.update_idem, History.afterFile, ByteArray.empty_append]

theorem ends_replace (d : Dir) {t p : Path} (ht : ¬ IsState t) (hp : IsState p) (bytes : ByteArray)
    (w : World) :
    s.Ends (do
      ask (.dir (.createAll d)) >>= orFail .io
      writePrivate t bytes
      ask (.file (.rename t p)) >>= orFail .io) w (.ok ()) (w.put p (bytes ++ "\n".toUTF8)) := by
  have hcreate : s.script.play (ask (.dir (.createAll d)) >>= orFail .io : Action Unit).run w =
      (.ok (), made w d) := by
    simp [dirAnswer, choice, ioAnswer, made]
  have hfiles : (made w d).files = w.files := by cases d <;> rfl
  have hpt : p ≠ t := by
    rintro rfl
    exact ht hp
  have hscratch : w.Alike { made w d with files := Function.update w.files t none } :=
    ⟨⟨(AgreeOn.refl _ _).update_scratch ht none, (alike_made w d).same.history⟩, (alike_made w d).mode⟩
  refine ⟨_, ?_, hscratch.put p _⟩
  rw [Script.play_run_bind _ (by rw [hcreate]), hcreate,
    Script.play_run_bind _ (by rw [play_writePrivate]), play_writePrivate]
  simp [FileCall.answer, FileCall.next, onExisting, World.put, History.afterFile, hfiles]

theorem ends_store {γ : Type} {p : Path} (ht : ¬ IsState (withExtension p "json.tmp")) (hp : IsState p)
    (json : Codec γ) (value : γ) (w : World) :
    s.Ends (store json p value) w (.ok ()) (w.put p (jsonFile json value)) := by
  rw [← jsonFile_eq]
  exact ends_replace p.dir ht hp _ w

theorem ends_kvStore (key : UInt16) (data : ByteArray) (w : World) :
    s.Ends (kvStore key data) w (.ok (.ok ())) (w.put (keyPath key) (data ++ "\n".toUTF8)) := by
  refine Ends.attempt (ends_replace .matter (not_isState_keyTmp key) (isState_key key) data w)
    fun w' hw' => ?_
  exact ⟨w', rfl, hw'⟩

theorem ends_persistFabric {fabrics : List Fabric} {fabIdx : FabIdx} {f : Fabric}
    (hf : fabrics.find? (·.fabIdx = fabIdx) = some f) (w : World) :
    s.Ends (persistFabric reference fabrics fabIdx) w (.ok ())
      (w.put (fabricPath reference fabIdx) (fabricBlob reference f)) := by
  unfold persistFabric
  rw [hf]
  exact Ends.bind (ends_kvStore _ _ w) fun w' hw' => ⟨w', rfl, hw'⟩

/-! ## The fabric -/

theorem play_loadOrDefault (p : Path) (w : World) :
    s.script.play (loadOrDefault reference p).run w =
      (.ok (registryOf reference (readText w.files p)), w) := rfl

/-- The identity before the first device. -/
def first : Identity := { identity with nextDeviceNodeId := 1 }

theorem play_mintFabric (w : World) :
    s.script.play (mintFabric []).run w = (.ok (first, fabric.fabIdx, fabric.seed), w) := by
  unfold mintFabric Identity.generate Identity.randomId
  simp only [Effect.run_bind, run_ask, Program.call_bind, Program.done_bind, continueWith_ok,
    play_crypto, play_fillBytes, computed, run_orFail_ok, Effect.run_pure]
  rfl

theorem ends_bootstrapFabric (w : World) :
    s.Ends (bootstrapFabric reference config []) w (.ok ([fabric], fabric.fabIdx, first))
      (w.complete reference fabric first) := by
  refine Ends.bind (.of_eq (play_mintFabric w)) fun w₁ h₁ => ?_
  have hlabelled : tryUpdateLabel reference ([] ++ [{ fabric with label := "" }]) fabric.fabIdx
      config.fabricLabel = [fabric] := by
    decide +kernel
  dsimp only
  refine Ends.bind (ends_persistFabric (f := fabric) ?_ w₁) fun w₂ h₂ => ?_
  · rw [show (tryUpdateLabel reference ([] ++ [{ fabIdx := fabric.fabIdx, seed := fabric.seed, label := "" }])
      fabric.fabIdx config.fabricLabel) = [fabric] from hlabelled]
    rfl
  refine Ends.attempt (ends_store not_isState_identityTmp isState_identity _ _ w₂) fun w₃ h₃ => ?_
  refine ⟨w₃, ?_, ((h₁.put _ _).trans h₂ |>.put _ _).trans h₃⟩
  rw [← hlabelled]
  rfl

/-- On a storage without an identity and without devices. -/
theorem ends_ensureFabric_fresh (hid : w.files identityPath = none)
    (hdev : w.files devicesPath = none) :
    s.Ends (ensureFabric reference config []) w (.ok ([fabric], fabric.fabIdx, first))
      (w.complete reference fabric first) := by
  refine Ends.bind (.of_eq (play_loadOrDefault devicesPath w)) fun w₁ h₁ => ?_
  rw [readText_none hdev]
  refine Ends.bind (a := false) (v := w) ⟨w₁, ?_, h₁⟩ fun w₂ h₂ => ?_
  · rw [run_ask, play_file, FileCall.answer, h₁.same.at_ isState_identity, hid]
    rfl
  · exact (ends_bootstrapFabric w₂).alike ((h₂.put _ _).put _ _)

/-- On a storage with the fabric and its identity. -/
theorem ends_ensureFabric_found {c : Config} (label : c.fabricLabel = fabric.label) {i : Identity}
    (hid : w.files identityPath = some (jsonFile reference.identityJson i)) :
    s.Ends (ensureFabric reference c [fabric]) w (.ok ([fabric], fabric.fabIdx, i)) w := by
  refine Ends.bind (.of_eq (play_loadOrDefault devicesPath w)) fun w₁ h₁ => ?_
  have hread : readText w₁.files identityPath = .ok (reference.identityJson.encode i ++ "\n") := by
    refine readText_jsonFile ?_
    rw [h₁.same.at_ isState_identity, hid]
  refine Ends.bind (a := readText w₁.files identityPath) (v := w) ⟨w₁, rfl, h₁⟩ fun w₂ h₂ => ?_
  rw [hread]
  dsimp only
  rw [reference.identityJson.decode_encode, label]
  exact ⟨w₂, rfl, h₂⟩

theorem virgin_freshHost : Virgin freshHost := ⟨fun _ _ => rfl, rfl⟩

/-! ## Storage with a fabric -/

/-- The storage has the fabric and this identity. -/
structure Established (w : World) (i : Identity) : Prop where
  identity : w.files identityPath = some (jsonFile reference.identityJson i)
  blob : w.files (fabricPath reference fabric.fabIdx) = some (fabricBlob reference fabric)
  others : ∀ j, j ≠ fabric.fabIdx → w.files (fabricPath reference j) = none

theorem Established.agree {i : Identity} (h : Established w i) (hw : AgreeOn IsState w.files w₁.files) :
    Established w₁ i where
  identity := by rw [hw _ isState_identity, h.identity]
  blob := by rw [hw _ (isState_fabric _), h.blob]
  others j hj := by rw [hw _ (isState_fabric _), h.others j hj]

theorem Established.put_devices {i : Identity} (h : Established w i) (bytes : ByteArray) :
    Established (w.put devicesPath bytes) i where
  identity := by rw [World.put_files_of_ne _ devices_ne_identity.symm, h.identity]
  blob := by rw [World.put_files_of_ne _ (devices_ne_fabric _).symm, h.blob]
  others j hj := by rw [World.put_files_of_ne _ (devices_ne_fabric _).symm, h.others j hj]

theorem established_complete (hw : ∀ j, w.files (fabricPath reference j) = none) (i : Identity) :
    Established (w.complete reference fabric i) i where
  identity := World.put_files_self _ _ _
  blob := by
    rw [World.complete, World.put_files_of_ne _ (identity_ne_fabric _).symm]
    exact World.put_files_self _ _ _
  others j hj := by
    rw [World.complete, World.put_files_of_ne _ (identity_ne_fabric _).symm, World.install,
      World.put_files_of_ne _ fun h => hj (fabricPath_injective h), hw]

/-- A host whose first run was stopped after it had written the identity. -/
def oneController : World := freshHost.complete reference fabric first

theorem established_oneController : Established oneController first :=
  established_complete (w := freshHost) (fun _ => rfl) first

theorem loads_of_members {files : FileMap Path} {fs : List Fabric}
    (hload : reference.loadFabrics (blobsOf files) = .ok fs) {f : Fabric}
    (hf : ∀ g, g ∈ fs ↔ g = f) : fs = [f] := by
  have hnodup := reference.nodup_loadFabrics hload
  exact List.perm_singleton.mp ((List.perm_ext_iff_of_nodup hnodup (List.nodup_singleton f)).mpr
    fun g => by rw [hf, List.mem_singleton])

theorem Established.loads {i : Identity} (h : Established w i) :
    reference.loadFabrics (blobsOf w.files) = .ok [fabric] := by
  have hblob : ∀ j bytes, blobsOf w.files (reference.fabricKey j) = some bytes →
      j = fabric.fabIdx ∧ bytes = fabricBlob reference fabric := by
    intro j bytes hb
    by_cases hj : j = fabric.fabIdx
    · subst hj
      exact ⟨rfl, (Option.some.inj (h.blob.symm.trans hb)).symm⟩
    · exact absurd ((h.others j hj).symm.trans hb) nofun
  have ok : ∃ fs, reference.loadFabrics (blobsOf w.files) = .ok fs := by
    refine reference.loadFabrics_ok fun j bytes hb => ?_
    obtain ⟨rfl, rfl⟩ := hblob j bytes hb
    exact ⟨fabric, reference.decode_encodeFabric fabric, rfl⟩
  obtain ⟨fs, hload⟩ := ok
  rw [hload, loads_of_members hload fun g => ?_]
  rw [reference.mem_loadFabrics hload]
  constructor
  · rintro ⟨bytes, hb, hdecode⟩
    obtain ⟨-, rfl⟩ := hblob _ _ hb
    exact (Option.some.inj ((reference.decode_encodeFabric fabric).symm.trans hdecode)).symm
  · rintro rfl
    exact ⟨_, h.blob, reference.decode_encodeFabric fabric⟩

theorem loads_nothing (hw : ∀ j, w.files (fabricPath reference j) = none) :
    reference.loadFabrics (blobsOf w.files) = .ok [] := by
  have ok : ∃ fs, reference.loadFabrics (blobsOf w.files) = .ok fs :=
    reference.loadFabrics_ok fun j bytes hb => absurd ((hw j).symm.trans hb) nofun
  obtain ⟨fs, hload⟩ := ok
  have hnone : fs = [] := List.eq_nil_iff_forall_not_mem.mpr fun f hf => by
    obtain ⟨bytes, hb, -⟩ := (reference.mem_loadFabrics hload f).mp hf
    exact absurd ((hw _).symm.trans hb) nofun
  rw [hload, hnone]

/-! ## The registry -/

theorem ends_updateDevice {nodeId : NodeId} {patch : DeviceRecord → Action DeviceRecord}
    {record : DeviceRecord}
    (hpatch : s.Ends (patch ((w.registry reference).nodes.getD (nodeKey nodeId) {})) w (.ok record) w) :
    s.Ends (updateDevice reference devicesPath nodeId patch) w (.ok ())
      (w.put devicesPath (jsonFile reference.devicesJson
        { nodes := (w.registry reference).nodes.insert (nodeKey nodeId) record })) := by
  refine Ends.bind_eq (play_loadOrDefault devicesPath w) (Ends.bind hpatch fun w₁ h₁ => ?_)
  exact (ends_store not_isState_devicesTmp isState_devices _ _ w₁).alike (h₁.put _ _)

theorem ends_removeDevice (nodeId : NodeId) (w : World) :
    s.Ends (removeDevice reference devicesPath nodeId) w (.ok ())
      (w.put devicesPath (jsonFile reference.devicesJson
        { nodes := (w.registry reference).nodes.erase (nodeKey nodeId) })) := by
  exact Ends.bind_eq (play_loadOrDefault devicesPath w)
    (ends_store not_isState_devicesTmp isState_devices _ _ w)

/-! ## Devices -/

theorem play_connect (ctx : Ctx) (nodeId : NodeId) (w : World) :
    s.script.play (connect reference ctx nodeId).run w =
      (.ok nodeId, { w with clock := w.clock.afterSecs (s.dialSecs (w.peers nodeId)) }) := by
  unfold connect connectAttempts connectLoop withTimeout
  rfl

theorem ends_request {ctx : Ctx} {nodeId : NodeId} {r : Request} {a : r.Reply} (what : String)
    (hr : ∀ w, s.reply w nodeId r = .ok a) (w : World) :
    s.Ends (request reference ctx nodeId r what) w (.ok a) w := by
  refine Ends.bind (a := nodeId) (v := w) ⟨_, play_connect ctx nodeId w, ⟨.refl _ _, rfl⟩, id⟩
    fun w₁ h₁ => ?_
  have answered : s.script.play (ask (.wire nodeId r)).run w₁ =
      (.ok (.ok a), wireEffect w₁ nodeId r ⟨some w₁.clock, .ok a⟩) := by
    rw [← hr w₁]
    rfl
  have alike : w₁.Same _ := sameOn_wireEffect w₁ nodeId r ⟨some w₁.clock, .ok a⟩
  refine Ends.bind (v := w) ⟨_, answered, h₁.trans ⟨alike, id⟩⟩ fun w₂ h₂ => ?_
  exact ⟨w₂, rfl, h₂⟩

/-- A device that is asked to leaves the fabric. -/
theorem ends_decommissionOne (ctx : Ctx) (nodeId : NodeId) (w : World) :
    s.Ends (decommissionOne reference ctx nodeId) w (.ok ()) w := by
  have entry : ∀ w, s.Ends (readOurFabricEntry reference ctx nodeId) w
      (.ok (some "mattertimectl", some 1)) w := fun w =>
    Ends.bind (ends_request _ (fun _ => rfl) w) fun w₁ h₁ => ⟨w₁, rfl, h₁⟩
  refine Ends.bind (entry w) fun w₁ h₁ => ?_
  refine Ends.bind (ends_request _ (fun _ => rfl) w₁) fun w₂ h₂ => ?_
  exact ⟨wireEffect w₂ nodeId .complete ⟨some w₂.clock, .ok ()⟩, rfl,
    (h₁.trans h₂).trans ⟨sameOn_wireEffect _ _ _ _, id⟩⟩

/-! ## Whole runs -/

/-- A new directory is created, one with an identity is ours. -/
theorem ends_prepareStorageDir {c : Config} (h : w.storageMode = none ∨ (w.files identityPath).isSome = true) :
    s.Ends (prepareStorageDir c) w (.ok ()) { w with storageMode := some privateMode } := by
  refine .of_eq ?_
  unfold prepareStorageDir isOurStorageDir anyMarkerExists
  cases hm : w.storageMode with
  | none => simp [dirAnswer, dirEffect, choice, ioAnswer, hm]
  | some mode =>
      obtain hid : (w.files identityPath).isSome = true := h.resolve_left (by simp [hm])
      simp [dirAnswer, dirEffect, choice, ioAnswer, hm, FileCall.answer, FileCall.next,
        History.afterFile, hid]

theorem ends_lockStorage {c : Config} (op : Op) (w : World) : s.Ends (lockStorage c op) w (.ok ()) w := by
  refine ⟨{ w with files := Function.update w.files lockPath (some ByteArray.empty) }, ?_,
    ⟨(AgreeOn.refl _ _).update_scratch not_isState_lock _, rfl⟩, id⟩
  unfold lockStorage
  simp [FileCall.answer, FileCall.next, History.afterFile]
  rfl

/-- What a run does with the lock before its operation. -/
def setUp (ext : Externals) (config : Config) : Action Ctx := do
  let fabrics ← ask .loadPersist >>= orFail (.matter "load persisted Matter state")
  let (fabrics, fabIdx, identity) ← ensureFabric ext config fabrics
  ask .bindUdp >>= orFail fun e => .context "bind Matter UDP socket" (.io e)
  let (_, _, interface) ← pickInterface
  ask (.bindMdns interface) >>= orFail fun e => .context "bind mDNS socket" (.io e)
  return { fabrics, fabIdx, identity, config }

theorem runLocked_eq (ext : Externals) (config : Config) (op : Op) :
    runLocked ext config op = setUp ext config >>= fun ctx => runOp ext ctx op := by
  simp only [runLocked, setUp, bind_assoc, pure_bind]

theorem ends_setUp {c : Config} {fabrics fabrics' : List Fabric} {fabIdx : FabIdx} {i : Identity}
    (hload : reference.loadFabrics (blobsOf w.files) = .ok fabrics)
    (hensure : ∀ w', w.Alike w' →
      s.Ends (ensureFabric reference c fabrics) w' (.ok (fabrics', fabIdx, i)) w₁) :
    s.Ends (setUp reference c) w
      (.ok { fabrics := fabrics', fabIdx, identity := i, config := c }) w₁ := by
  have sockets : ∃ address, ∀ w : World,
      s.script.play pickInterface.run w = (.ok address, w) := ⟨_, fun _ => rfl⟩
  obtain ⟨address, picked⟩ := sockets
  refine Ends.bind (a := fabrics) (v := w) (.of_eq ?_) fun w₃ h₃ => ?_
  · simp only [Effect.run_bind, run_ask, Program.call_bind, Program.done_bind, continueWith_ok,
      play_loadPersist, hload, run_orFail_ok, Script.play_done]
  refine Ends.bind (hensure w₃ h₃) fun w₄ h₄ => ?_
  refine Ends.bind (a := ()) (v := w₁) ⟨w₄, rfl, h₄⟩ fun w₅ h₅ => ?_
  refine Ends.bind (v := w₁) ⟨w₅, picked w₅, h₅⟩ fun w₆ h₆ => ?_
  exact Ends.bind (a := ()) (v := w₁) ⟨w₆, rfl, h₆⟩ fun w₇ h₇ => ⟨w₇, rfl, h₇⟩

theorem ends_setUp_found {c : Config} (label : c.fabricLabel = fabric.label) {i : Identity} (h : Established w i) :
    s.Ends (setUp reference c) w (.ok { ctx with identity := i, config := c }) w :=
  ends_setUp h.loads fun _ hw' =>
    (ends_ensureFabric_found label (h.agree hw'.same.files).identity).alike hw'

theorem ends_runLocked {c : Config} {op : Op} {fabrics fabrics' : List Fabric} {fabIdx : FabIdx} {i : Identity}
    {r : Except Failure op.Out} (hload : reference.loadFabrics (blobsOf w.files) = .ok fabrics)
    (hensure : ∀ w', w.Alike w' →
      s.Ends (ensureFabric reference c fabrics) w' (.ok (fabrics', fabIdx, i)) w₁)
    (hop : ∀ w', w₁.Alike w' →
      s.Ends (runOp reference { fabrics := fabrics', fabIdx, identity := i, config := c } op) w' r w₂) :
    s.Ends (runLocked reference c op) w r w₂ := by
  rw [runLocked_eq]
  exact Ends.bind (ends_setUp hload hensure) hop

/-- A whole run, given what it does with the lock. -/
theorem exists_ends_run {c : Config} {op : Op} {Q : Except Failure op.Out → World → Prop}
    (h : w.storageMode = none ∨ (w.files identityPath).isSome = true)
    (hlocked : ∀ w', ({ w with storageMode := some privateMode } : World).Alike w' →
      ∃ r w₁, s.Ends (runLocked reference c op) w' r w₁ ∧ Q r w₁) :
    ∃ r w₁, s.Ends (run reference c op) w r (w₁.report op r) ∧ Q r w₁ := by
  obtain ⟨w₂, prepared, h₂⟩ := ends_prepareStorageDir (s := s) (c := c) h
  obtain ⟨w₃, locked, h₃⟩ := ends_lockStorage (s := s) (c := c) op w₂
  obtain ⟨r, w₁, ends, hQ⟩ := hlocked w₃ (h₂.trans h₃)
  refine ⟨r, w₁, .bind_eq prepared (.bind_eq locked (.attempt ends fun w₄ h₄ => ?_)), hQ⟩
  refine ⟨w₄.report op r, ?_, h₄.report op r⟩
  cases r <;> simp

theorem ends_run {c : Config} {op : Op} {r : Except Failure op.Out}
    (h : w.storageMode = none ∨ (w.files identityPath).isSome = true)
    (hlocked : ∀ w', ({ w with storageMode := some privateMode } : World).Alike w' →
      s.Ends (runLocked reference c op) w' r w₁) :
    s.Ends (run reference c op) w r (w₁.report op r) := by
  obtain ⟨_, _, ends, rfl, rfl⟩ := exists_ends_run (Q := fun r' w' => r' = r ∧ w' = w₁) h fun w' hw' =>
    ⟨r, w₁, hlocked w' hw', rfl, rfl⟩
  exact ends

end Scenario

end MatterTimeCtl
