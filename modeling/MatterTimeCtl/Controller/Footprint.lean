/-
# MatterTimeCtl.Controller.Footprint — what each part of the program may call.

Most of the program only talks: to a device, to the log, to the clock.  A footprint `x.run.Uses P` says
that every call the program part `x` can reach satisfies `P`, whatever it is answered.  Four footprints
are enough for everything that follows: `Talk` for the exchanges with devices, `Looks` and `Outside` for
what a command does before it holds the storage lock and after it has given it back, and `Locked` for
what it does in between.
-/
import MatterTimeCtl.Cli

namespace MatterTimeCtl

open Files Effect

/-! ## The building blocks, for any footprint -/

section Blocks

variable {P : Call → Prop}

/-- The footprint allows building a file aside and renaming it. -/
structure MayReplace (P : Call → Prop) (d : Dir) (tmp path : Path) : Prop where
  create : P (.dir (.createAll d))
  opened : P (.file (.openTruncate tmp))
  written : ∀ bytes, P (.file (.writeAll tmp bytes))
  synced : P (.file (.syncAll tmp))
  renamed : P (.file (.rename tmp path))

theorem MayReplace.uses {d : Dir} {tmp path : Path} (h : MayReplace P d tmp path) (body : ByteArray) :
    (do
      ask (.dir (.createAll d)) >>= orFail Failure.io
      writePrivate tmp body
      ask (.file (.rename tmp path)) >>= orFail .io : Action Unit).run.Uses P := by
  refine uses_run_bind (uses_run_bind (uses_ask h.create) fun _ => uses_orFail _ _) fun _ => ?_
  refine uses_run_bind ?_ fun _ => uses_run_bind (uses_ask h.renamed) fun _ => uses_orFail _ _
  unfold writePrivate
  refine uses_run_bind (uses_run_bind (uses_ask h.opened) fun _ => uses_orFail _ _) fun _ => ?_
  refine uses_run_bind (uses_run_bind (uses_ask (h.written _)) fun _ => uses_orFail _ _) fun _ => ?_
  refine uses_run_bind (uses_run_bind (uses_ask (h.written _)) fun _ => uses_orFail _ _) fun _ => ?_
  exact uses_run_bind (uses_ask h.synced) fun _ => uses_orFail _ _

theorem uses_store {α : Type} (json : Codec α) {path : Path}
    (h : MayReplace P path.dir (withExtension path "json.tmp") path) (value : α) :
    (store json path value).run.Uses P := h.uses _

theorem uses_persistFabric (ext : Externals)
    (h : ∀ key, MayReplace P .matter (withExtension (keyPath key) "tmp") (keyPath key))
    (fabrics : List Fabric) (fabIdx : FabIdx) : (persistFabric ext fabrics fabIdx).run.Uses P := by
  unfold persistFabric
  split
  · exact uses_run_throw _
  · refine uses_run_bind (uses_run_bind (uses_attempt ((h _).uses _)) fun r => ?_) fun _ =>
      uses_orFail _ _
    cases r <;> exact uses_run_pure _

theorem uses_reconcileLabel (ext : Externals)
    (h : ∀ key, MayReplace P .matter (withExtension (keyPath key) "tmp") (keyPath key))
    (fabrics : List Fabric) (fabIdx : FabIdx) (label : String) :
    (reconcileLabel ext fabrics fabIdx label).run.Uses P := by
  unfold reconcileLabel
  dsimp only
  split
  · exact uses_run_pure _
  · split
    · exact uses_run_throw _
    · exact uses_run_bind (uses_persistFabric ext h _ _) fun _ => uses_run_pure _

theorem uses_mintFabric (crypto : ∀ c, P (.crypto c)) (fill : ∀ n, P (.fillBytes n))
    (fabrics : List Fabric) : (mintFabric fabrics).run.Uses P := by
  have key : ∀ (c : CryptoCall) (what : String),
      (ask (.crypto c) >>= orFail (.matter what)).run.Uses P := fun c _ =>
    uses_run_bind (uses_ask (crypto c)) fun _ => uses_orFail _ _
  have randomId : Identity.randomId.run.Uses P :=
    uses_run_bind (uses_ask (fill 8)) fun _ => uses_run_pure _
  have generate : Identity.generate.run.Uses P :=
    uses_run_bind (key _ _) fun _ => uses_run_bind randomId fun _ =>
      uses_run_bind randomId fun _ => uses_run_pure _
  exact uses_run_bind generate fun _ => uses_run_bind (key _ _) fun (_, _) =>
    uses_run_bind (key _ _) fun _ => uses_run_bind (key _ _) fun _ =>
    uses_run_bind (key _ _) fun _ => uses_run_bind (key _ _) fun _ =>
    uses_run_bind (key _ _) fun _ => uses_run_bind (key _ _) fun _ =>
    uses_run_bind (uses_ask (fill 16)) fun _ => uses_run_bind (key _ _) fun _ => uses_run_pure _

/-- The footprint allows everything that ensuring the fabric takes. -/
structure MayEnsure (P : Call → Prop) : Prop where
  readDevices : P (.file (.readToString devicesPath))
  findIdentity : P (.file (.pathExists identityPath))
  readIdentity : P (.file (.readToString identityPath))
  storeIdentity : MayReplace P identityPath.dir (withExtension identityPath "json.tmp") identityPath
  storeKey : ∀ key, MayReplace P .matter (withExtension (keyPath key) "tmp") (keyPath key)
  removeKey : ∀ key, P (.file (.removeFile (keyPath key)))
  crypto : ∀ c, P (.crypto c)
  fill : ∀ n, P (.fillBytes n)
  warn : ∀ message, P (.log .warn message)

theorem MayEnsure.refuseOrBootstrap (h : MayEnsure P) (ext : Externals) (config : Config) (fabrics : List Fabric)
    (registry : Devices) : (MatterTimeCtl.refuseOrBootstrap ext config fabrics registry).run.Uses P := by
  unfold MatterTimeCtl.refuseOrBootstrap
  refine uses_run_bind (uses_ask h.findIdentity) fun b => ?_
  split
  · exact uses_run_throw _
  · split
    · exact uses_run_throw _
    · refine uses_run_bind (uses_mintFabric h.crypto h.fill _) fun (_, _, _) =>
        uses_run_bind (uses_persistFabric ext h.storeKey _ _) fun _ =>
          uses_run_bind (uses_attempt (uses_store _ h.storeIdentity _)) fun r => ?_
      cases r with
      | ok _ => exact uses_run_pure _
      | error _ => exact uses_run_throw _

theorem MayEnsure.ensureFabric (h : MayEnsure P) (ext : Externals) (config : Config) (fabrics : List Fabric) :
    (MatterTimeCtl.ensureFabric ext config fabrics).run.Uses P := by
  unfold MatterTimeCtl.ensureFabric
  refine uses_run_bind (uses_run_bind (uses_ask h.readDevices) fun _ => uses_run_pure _) fun registry => ?_
  cases (fabrics.map Fabric.fabIdx).head? with
  | none => exact h.refuseOrBootstrap ext config _ _
  | some fabIdx =>
      refine uses_run_bind (uses_ask h.readIdentity) fun answer => ?_
      cases answer with
      | ok raw =>
          dsimp only
          cases ext.identityJson.decode raw with
          | error _ => exact uses_run_throw _
          | ok _ =>
              exact uses_run_bind (uses_reconcileLabel ext h.storeKey _ _ _) fun _ => uses_run_pure _
      | error cause =>
          dsimp only
          split
          · refine uses_run_bind (uses_ask (h.warn _)) fun _ => uses_run_bind ?_ fun _ =>
              h.refuseOrBootstrap ext config _ _
            refine uses_run_bind (uses_run_bind (uses_ask (h.removeKey _)) fun r => ?_) fun _ => uses_orFail _ _
            split <;> exact uses_run_pure _
          · exact uses_run_throw _

theorem uses_withTimeout {secs : Nat} {future : Future}
    (h : P (.timed secs future)) (what : String) : (withTimeout what secs future).run.Uses P := by
  unfold withTimeout
  refine uses_run_bind (uses_ask h) fun r => ?_
  cases r with
  | none => exact uses_run_throw _
  | some r => exact uses_orFail _ r

end Blocks

/-! ## Talking -/

/-- Calls that only dial: attempts to open an exchange, with their pauses and warnings. -/
def Dials : Call → Prop
  | .log _ _ | .sleep _ | .timed _ (.initiate _) => True
  | _ => False

/-- Calls that change nothing but the log and a device's own state, with requests of this kind. -/
def Talks (R : Request → Prop) : Call → Prop
  | .now | .log _ _ | .sleep _ | .timed _ (.initiate _) => True
  | .wire _ r => R r
  | _ => False

abbrev Talk : Call → Prop := Talks fun _ => True

theorem Dials.talks {R : Request → Prop} {c : Call} (h : Dials c) : Talks R c := by
  unfold Dials at h
  split at h <;> trivial

section Talk

variable (ext : Externals) (ctx : Ctx) {R : Request → Prop}

theorem dials_connectLoop (nodeId : NodeId) (left : Nat) :
    (connectLoop ext ctx nodeId left).run.Uses Dials := by
  induction left with
  | zero => exact uses_run_throw _
  | succ left ih =>
      unfold connectLoop
      refine uses_run_bind (uses_attempt (uses_withTimeout trivial _)) fun r => ?_
      cases r with
      | ok a => exact uses_run_pure _
      | error e =>
          dsimp only
          split
          · exact uses_run_throw _
          · exact uses_run_bind (uses_ask trivial) fun _ => uses_run_bind (uses_ask trivial) fun _ => ih

theorem dials_connect (nodeId : NodeId) : (connect ext ctx nodeId).run.Uses Dials :=
  dials_connectLoop ext ctx nodeId _

/-- The exchange that is opened is with the node that was asked for. -/
theorem returns_connect (nodeId : NodeId) :
    (connect ext ctx nodeId).run.Returns fun r => ∀ n, r = .ok n → n = nodeId := by
  unfold connect
  generalize connectAttempts = left
  induction left with
  | zero => exact Program.returns_done.mpr fun _ => error_ne_ok
  | succ left ih =>
      unfold connectLoop
      refine returns_run_bind ((Program.returns_trivial _).mono fun _ _ _ _ _ => error_ne_ok) fun r => ?_
      cases r with
      | ok a =>
          refine Program.returns_done.mpr fun n h => ?_
          cases h
          rfl
      | error e =>
          dsimp only
          split
          · exact Program.returns_done.mpr fun _ => error_ne_ok
          · exact returns_run_bind ((Program.returns_trivial _).mono fun _ _ _ _ _ => error_ne_ok) fun _ =>
              returns_run_bind ((Program.returns_trivial _).mono fun _ _ _ _ _ => error_ne_ok) fun _ => ih

theorem talk_connect (nodeId : NodeId) : (connect ext ctx nodeId).run.Uses (Talks R) :=
  (dials_connect ext ctx nodeId).mono fun _ => Dials.talks

theorem talk_request (nodeId : NodeId) (r : Request) (what : String) (hr : R r) :
    (request ext ctx nodeId r what).run.Uses (Talks R) :=
  uses_run_bind (talk_connect ext ctx nodeId) fun _ =>
    uses_run_bind (uses_ask hr) fun _ => uses_orFail _ _

theorem talk_complete (nodeId : NodeId) (what : String) (hr : R .complete) :
    (ask (.wire nodeId .complete) >>= orFail (.matter what)).run.Uses (Talks R) :=
  uses_run_bind (uses_ask hr) fun _ => uses_orFail _ _

theorem talk_readVendorName (nodeId : NodeId) (hr : R .vendorNameRead) :
    (readVendorName ext ctx nodeId).run.Uses (Talks R) :=
  uses_run_bind (talk_request ext ctx nodeId _ _ hr) fun _ =>
    uses_run_bind (uses_orFail _ _) fun _ => uses_run_pure _

theorem talk_readProductName (nodeId : NodeId) (hr : R .productNameRead) :
    (readProductName ext ctx nodeId).run.Uses (Talks R) :=
  uses_run_bind (talk_request ext ctx nodeId _ _ hr) fun _ =>
    uses_run_bind (uses_orFail _ _) fun _ => uses_run_pure _

theorem talk_readDeviceNames (nodeId : NodeId) (hvendor : R .vendorNameRead) (hproduct : R .productNameRead) :
    (readDeviceNames ext ctx nodeId).run.Uses (Talks R) :=
  uses_run_bind (uses_attempt (talk_readVendorName ext ctx nodeId hvendor)) fun _ =>
    uses_run_bind (uses_attempt (talk_readProductName ext ctx nodeId hproduct)) fun _ => uses_run_pure _

theorem talk_readOurFabricEntry (nodeId : NodeId) (hr : R .fabricsRead) :
    (readOurFabricEntry ext ctx nodeId).run.Uses (Talks R) :=
  uses_run_bind (talk_request ext ctx nodeId _ _ hr) fun _ => uses_orFail _ _

theorem talk_ensureFabricLabel (nodeId : NodeId) (hread : R .fabricsRead)
    (hupdate : ∀ label, R (.updateFabricLabel label)) (hcomplete : R .complete) :
    (ensureFabricLabel ext ctx nodeId).run.Uses (Talks R) := by
  have try_ : (tryEnsureFabricLabel ext ctx nodeId).run.Uses (Talks R) := by
    refine uses_run_bind (talk_readOurFabricEntry ext ctx nodeId hread) fun (current, _) => ?_
    dsimp only
    split
    · exact uses_run_pure _
    · exact uses_run_bind (talk_request ext ctx nodeId _ _ (hupdate _)) fun _ =>
        talk_complete nodeId _ hcomplete
  refine uses_run_bind (uses_attempt try_) fun r => ?_
  cases r with
  | ok _ => exact uses_run_pure _
  | error _ => exact uses_ask trivial

theorem talk_writeZoneAndDst (nodeId : NodeId) (tz : TimeZone) (nowTs : Timestamp)
    (hzone : ∀ entries, R (.setTimeZone entries)) (hcomplete : R .complete)
    (hsize : R .dstOffsetListMaxSizeRead) (hdst : ∀ entries, R (.setDstOffset entries)) :
    (writeZoneAndDst ext ctx nodeId tz nowTs).run.Uses (Talks R) := by
  refine uses_run_bind (talk_request ext ctx nodeId _ _ (hzone _)) fun response => ?_
  refine uses_run_bind (talk_complete nodeId _ hcomplete) fun _ => ?_
  split
  · exact uses_run_pure _
  · exact uses_run_bind (talk_request ext ctx nodeId _ _ hsize) fun _ =>
      uses_run_bind (talk_request ext ctx nodeId _ _ (hdst _)) fun _ => uses_run_pure _

theorem talk_writeClock (nodeId : NodeId) (hasTimeZone : Bool) (utcWrite : MatterMicros)
    (nowTs : Timestamp) : (writeClock ext ctx nodeId hasTimeZone utcWrite nowTs).run.Uses Talk := by
  refine uses_run_bind (talk_request ext ctx nodeId _ _ trivial) fun _ => ?_
  split
  · exact talk_writeZoneAndDst ext ctx nodeId _ _ (fun _ => trivial) trivial trivial fun _ => trivial
  · exact uses_run_pure _

theorem talk_verifyClock (nodeId : NodeId) (utcWrite : MatterMicros) (hr : R .utcTimeRead) :
    (verifyClock ext ctx nodeId utcWrite).run.Uses (Talks R) := by
  refine uses_run_bind (talk_request ext ctx nodeId _ _ hr) fun after => ?_
  dsimp only
  split
  · exact uses_run_throw _
  · exact uses_run_pure _

theorem talk_readFeatureMap (nodeId : NodeId) (hr : R .featureMapRead) :
    (readFeatureMap ext ctx nodeId).run.Uses (Talks R) := by
  refine uses_run_bind (talk_connect ext ctx nodeId) fun _ => uses_run_bind (uses_ask hr) fun r => ?_
  cases r with
  | ok _ => exact uses_run_pure _
  | error e =>
      dsimp only
      split
      · exact uses_run_bind (uses_ask trivial) fun _ => uses_run_pure _
      · exact uses_run_throw _

theorem talk_matterNow : matterNow.run.Uses (Talks R) :=
  uses_run_bind (uses_ask trivial) fun _ => uses_run_pure _

theorem talk_utcToWrite (manualTime : Option MatterMicros) :
    (utcToWrite manualTime).run.Uses (Talks R) := by
  cases manualTime with
  | none => exact talk_matterNow
  | some m => exact uses_run_pure _

theorem talk_syncOne (nodeId : NodeId) (manualTime : Option MatterMicros) :
    (syncOne ext ctx nodeId manualTime).run.Uses Talk := by
  refine uses_run_bind (uses_ask trivial) fun nowTs =>
    uses_run_bind (talk_readFeatureMap ext ctx nodeId trivial) fun featureMap => ?_
  cases featureMap with
  | none => exact uses_run_pure _
  | some featureMap =>
      exact uses_run_bind (talk_request ext ctx nodeId _ _ trivial) fun _ =>
        uses_run_bind talk_matterNow fun _ =>
        uses_run_bind (talk_utcToWrite manualTime) fun _ =>
        uses_run_bind (talk_writeClock ext ctx nodeId _ _ _) fun (_, _) =>
        uses_run_bind (talk_verifyClock ext ctx nodeId _ trivial) fun _ =>
        uses_run_bind (talk_ensureFabricLabel ext ctx nodeId trivial (fun _ => trivial) trivial)
          fun _ => uses_run_pure _

theorem talk_decommissionOne (nodeId : NodeId) :
    (decommissionOne ext ctx nodeId).run.Uses Talk := by
  refine uses_run_bind (talk_readOurFabricEntry ext ctx nodeId trivial) fun (_, ourIndex) => ?_
  cases ourIndex with
  | none => exact uses_run_throw _
  | some _ =>
      exact uses_run_bind (talk_request ext ctx nodeId _ _ trivial) fun _ =>
        talk_complete nodeId _ trivial

theorem talk_readDstMax (nodeId : NodeId) (hasTz : Bool) (hr : R .dstOffsetListMaxSizeRead) :
    (readDstMax ext ctx nodeId hasTz).run.Uses (Talks R) := by
  unfold readDstMax
  split
  · exact uses_run_bind (talk_connect ext ctx nodeId) fun _ =>
      uses_run_bind (uses_ask hr) fun _ => uses_run_pure _
  · exact uses_run_pure _

theorem talk_inspectOne (nodeId : NodeId) : (inspectOne ext ctx nodeId).run.Uses Talk :=
  uses_run_bind (talk_readDeviceNames ext ctx nodeId trivial trivial) fun (_, _) =>
    uses_run_bind (talk_request ext ctx nodeId _ _ trivial) fun _ =>
    uses_run_bind (talk_request ext ctx nodeId _ _ trivial) fun _ =>
    uses_run_bind (talk_request ext ctx nodeId _ _ trivial) fun _ =>
    uses_run_bind (talk_readDstMax ext ctx nodeId _ trivial) fun _ =>
    uses_run_bind (talk_readOurFabricEntry ext ctx nodeId trivial) fun (_, _) => uses_run_pure _

theorem talk_inspect (targets : List NodeId) : (InspectOp.run ext ctx targets).run.Uses Talk := by
  induction targets with
  | nil => exact uses_run_pure _
  | cons nodeId targets ih =>
      refine uses_run_bind ?_ fun _ => uses_run_bind ih fun _ => uses_run_pure _
      refine uses_run_bind (uses_attempt (talk_inspectOne ext ctx nodeId)) fun r => ?_
      cases r with
      | ok _ => exact uses_run_pure _
      | error _ => exact uses_run_bind (uses_ask trivial) fun _ => uses_run_pure _

end Talk

/-! ## Outside the lock -/

/-- Calls that only look: at files and directories, at the clock, at the state of NTP. -/
def Looks : Call → Prop
  | .file (.pathExists _) | .file (.readToString _) | .dir (.exists _) | .dir (.readDir _) => True
  | .log _ _ | .now | .ntpSynchronized => True
  | _ => False

/-- Calls a command makes while it does not hold the storage lock: it looks, it claims the directory, and
it creates the lock file. -/
def Outside : Call → Prop
  | .file (.pathExists _) | .file (.readToString _) => True
  | .file (.openTruncate p) => p = lockPath
  | .dir _ | .log _ _ | .now | .ntpSynchronized => True
  | _ => False

theorem Looks.outside {c : Call} (h : Looks c) : Outside c := by
  unfold Looks at h
  split at h <;> trivial

theorem looks_loadOrDefault (ext : Externals) (path : Path) :
    (loadOrDefault ext path).run.Uses Looks :=
  uses_run_bind (uses_ask trivial) fun _ => uses_run_pure _

theorem looks_resolveOrEmpty (ext : Externals) (target : Option NodeId) :
    (resolveOrEmpty ext target).run.Uses Looks := by
  refine uses_run_bind (looks_loadOrDefault ext _) fun devices => ?_
  cases target with
  | none => exact uses_run_pure _
  | some node =>
      dsimp only
      split
      · exact uses_run_pure _
      · exact uses_run_throw _

theorem looks_resolve (ext : Externals) (target : Option NodeId) :
    (resolve ext target).run.Uses Looks := by
  refine uses_run_bind (looks_resolveOrEmpty ext target) fun targets => ?_
  dsimp only
  split
  · exact uses_run_throw _
  · exact uses_run_pure _

theorem looks_manualInstant (ext : Externals) (config : Config) (raw : String) :
    (manualInstant ext config raw).run.Uses Looks := by
  unfold manualInstant
  refine uses_run_bind (uses_orFail _ _) fun wall => uses_run_bind (uses_ask trivial) fun now => ?_
  dsimp only
  split
  · exact uses_run_pure _
  · exact uses_run_throw _

theorem looks_manualTimeOf (ext : Externals) (config : Config) (time : Option String) :
    (manualTimeOf ext config time).run.Uses Looks := by
  cases time with
  | none => exact uses_run_pure _
  | some raw => exact uses_run_map _ (looks_manualInstant ext config raw)

theorem looks_identityStatus (ext : Externals) : (identityStatus ext).run.Uses Looks := by
  have blob : fabricExists.run.Uses Looks := by
    refine uses_run_bind (uses_ask trivial) fun entries => ?_
    cases entries <;> exact uses_run_pure _
  refine uses_run_bind (uses_ask trivial) fun b => uses_run_bind blob fun b' => ?_
  cases b
  · cases b' <;> exact uses_run_pure _
  · cases b'
    · exact uses_run_pure _
    · refine uses_run_bind (uses_ask trivial) fun answer => ?_
      cases answer with
      | error _ => exact uses_run_pure _
      | ok raw =>
          dsimp only
          cases ext.identityJson.decode raw <;> exact uses_run_pure _

theorem looks_status (ext : Externals) (config : Config) (filter : Option NodeId) :
    (runStatus ext config filter).run.Uses Looks := by
  have matterTime : matterNow.run.Uses Looks :=
    uses_run_bind (uses_ask trivial) fun _ => uses_run_pure _
  exact uses_run_bind (uses_ask trivial) fun _ => uses_run_bind (looks_loadOrDefault ext _) fun _ =>
    uses_run_bind (looks_identityStatus ext) fun _ => uses_run_bind (uses_ask trivial) fun _ =>
    uses_run_bind (uses_ask trivial) fun _ => uses_run_bind matterTime fun _ => uses_run_pure _

theorem outside_isOurStorageDir : isOurStorageDir.run.Uses Outside := by
  have marker : anyMarkerExists.run.Uses Outside := by
    refine uses_run_bind (uses_ask trivial) fun b => ?_
    cases b
    · refine uses_run_bind (uses_ask trivial) fun b => ?_
      cases b
      · refine uses_run_bind (uses_ask trivial) fun b => ?_
        cases b
        · exact uses_ask trivial
        · exact uses_run_pure _
      · exact uses_run_pure _
    · exact uses_run_pure _
  refine uses_run_bind marker fun b => ?_
  cases b
  · refine uses_run_bind (uses_ask trivial) fun r => ?_
    cases r <;> exact uses_run_pure _
  · exact uses_run_pure _

theorem outside_prepareStorageDir (config : Config) :
    (prepareStorageDir config).run.Uses Outside := by
  unfold prepareStorageDir
  refine uses_run_bind (uses_ask trivial) fun b => ?_
  split
  · exact uses_run_bind (uses_ask trivial) fun _ => uses_orFail _ _
  · refine uses_run_bind outside_isOurStorageDir fun b => ?_
    split
    · exact uses_run_bind (uses_ask trivial) fun _ => uses_orFail _ _
    · exact uses_ask trivial

/-! ## On the registered nodes -/

/-- Calls that read devices.json or replace it. -/
def OnFiles : Call → Prop
  | .file (.readToString _) | .file (.openTruncate _) | .file (.writeAll _ _) | .file (.syncAll _) => True
  | .file (.rename _ _) | .dir (.createAll _) => True
  | _ => False

/-- Calls that a sync or a decommission makes. -/
def Serves (c : Call) : Prop := Talk c ∨ OnFiles c

section Serves

variable (ext : Externals) (ctx : Ctx)

theorem onFiles_loadOrDefault (path : Path) : (loadOrDefault ext path).run.Uses OnFiles :=
  uses_run_bind (uses_ask trivial) fun _ => uses_run_pure _

theorem onFiles_store {α : Type} (json : Codec α) (path : Path) (value : α) :
    (store json path value).run.Uses OnFiles :=
  uses_store json ⟨trivial, trivial, fun _ => trivial, trivial, trivial⟩ value

theorem onFiles_removeDevice (nodeId : NodeId) : (removeDevice ext devicesPath nodeId).run.Uses OnFiles :=
  uses_run_bind (onFiles_loadOrDefault ext _) fun _ => onFiles_store _ _ _

theorem serves_updateDevice (nodeId : NodeId) {patch : DeviceRecord → Action DeviceRecord}
    (hpatch : ∀ d, (patch d).run.Uses Talk) :
    (updateDevice ext devicesPath nodeId patch).run.Uses Serves :=
  uses_run_bind ((onFiles_loadOrDefault ext _).mono fun _ => .inr) fun _ =>
    uses_run_bind ((hpatch _).mono fun _ => .inl) fun _ => (onFiles_store _ _ _).mono fun _ => .inr

theorem talk_noteOutcome (outcome : SyncOutcome) (d : DeviceRecord) :
    (SyncOp.noteOutcome outcome d).run.Uses Talk := by
  unfold SyncOp.noteOutcome
  split
  · exact uses_run_bind (uses_ask trivial) fun _ =>
      uses_run_bind (uses_ask trivial) fun _ => uses_run_pure _
  · exact uses_run_pure _

theorem talk_logOutcome (nodeId : NodeId) (error : Option String) :
    (SyncOp.logOutcome nodeId error).run.Uses Talk := by
  cases error with
  | none => exact uses_run_pure _
  | some _ => exact uses_ask trivial

theorem serves_sync (manualTime : Option MatterMicros) (targets : List NodeId) :
    (SyncOp.run ext ctx manualTime targets).run.Uses Serves := by
  induction targets with
  | nil => exact uses_run_pure _
  | cons nodeId targets ih =>
      refine uses_run_bind ?_ fun _ => uses_run_bind ih fun _ => uses_run_pure _
      exact uses_run_bind (serves_updateDevice ext _ fun _ =>
          uses_run_bind (uses_ask trivial) fun _ => uses_run_pure _) fun _ =>
        uses_run_bind (uses_attempt ((talk_syncOne ext ctx nodeId manualTime).mono fun _ => .inl)) fun _ =>
        uses_run_bind (serves_updateDevice ext _ (talk_noteOutcome _)) fun _ =>
        uses_run_bind ((talk_logOutcome _ _).mono fun _ => .inl) fun _ => uses_run_pure _

theorem serves_decommission (targets : List NodeId) :
    (DecommissionOp.run ext ctx targets).run.Uses Serves := by
  induction targets with
  | nil => exact uses_run_pure _
  | cons nodeId targets ih =>
      refine uses_run_bind ?_ fun _ => uses_run_bind ih fun _ => uses_run_pure _
      refine uses_run_bind (uses_attempt ((talk_decommissionOne ext ctx nodeId).mono fun _ => .inl))
        fun r => ?_
      cases r with
      | ok _ =>
          exact uses_run_bind ((onFiles_removeDevice ext _).mono fun _ => .inr) fun _ => uses_run_pure _
      | error _ => exact uses_run_bind (uses_ask (.inl trivial)) fun _ => uses_run_pure _

end Serves

/-! ## Under the lock -/

/-- Calls a run makes while it holds the lock: it never touches the lock or its file, never looks at or
changes the directory itself, renames only within a directory, and removes only blobs. -/
def Locked : Call → Prop
  | .file (.pathExists p) | .file (.readToString p) | .file (.read p) | .file (.openTruncate p)
  | .file (.writeAll p _) | .file (.syncAll p) => p ≠ lockPath
  | .file (.rename source target) => source ≠ lockPath ∧ target ≠ lockPath ∧ source.dir = target.dir
  | .file (.removeFile p) => p.dir = .matter
  | .dir (.createAll _) => True
  | .dir _ | .flock _ | .unlock _ _ => False
  | _ => True

theorem Talks.locked {c : Call} (h : Talk c) : Locked c := by
  unfold Talk Talks at h
  split at h <;> trivial

section Locked

variable (ext : Externals) (ctx : Ctx) (config : Config)

theorem locked_loadOrDefault {path : Path} (h : path ≠ lockPath) :
    (loadOrDefault ext path).run.Uses Locked :=
  uses_run_bind (uses_ask h) fun _ => uses_run_pure _

theorem mayReplace_locked (d : Dir) {tmp path : Path} (htmp : tmp ≠ lockPath)
    (hpath : path ≠ lockPath) (hdir : tmp.dir = path.dir) : MayReplace Locked d tmp path :=
  ⟨trivial, htmp, fun _ => htmp, htmp, htmp, hpath, hdir⟩

theorem locked_storeDevices (devices : Devices) :
    (store ext.devicesJson devicesPath devices).run.Uses Locked :=
  uses_store _ (mayReplace_locked _ (by decide) (by decide) rfl) devices

theorem locked_storeIdentity (identity : Identity) :
    (store ext.identityJson identityPath identity).run.Uses Locked :=
  uses_store _ (mayReplace_locked _ (by decide) (by decide) rfl) identity

theorem locked_updateDevice (nodeId : NodeId) {patch : DeviceRecord → Action DeviceRecord}
    (hpatch : ∀ d, (patch d).run.Uses Talk) :
    (updateDevice ext devicesPath nodeId patch).run.Uses Locked :=
  uses_run_bind (locked_loadOrDefault ext (by decide)) fun _ =>
    uses_run_bind ((hpatch _).mono fun _ => Talks.locked) fun _ => locked_storeDevices ext _

theorem locked_removeDevice (nodeId : NodeId) :
    (removeDevice ext devicesPath nodeId).run.Uses Locked :=
  uses_run_bind (locked_loadOrDefault ext (by decide)) fun _ => locked_storeDevices ext _

/-- A path in the key-value directory is not the lock file. -/
theorem ne_lockPath_of_matter {path : Path} (h : path.dir = .matter) : path ≠ lockPath := by
  rintro rfl
  cases h

theorem mayReplace_lockedKey (key : UInt16) :
    MayReplace Locked .matter (withExtension (keyPath key) "tmp") (keyPath key) :=
  mayReplace_locked _ (ne_lockPath_of_matter rfl) (ne_lockPath_of_matter rfl) rfl

theorem mayEnsure_locked : MayEnsure Locked where
  readDevices := (by decide : devicesPath ≠ lockPath)
  findIdentity := (by decide : identityPath ≠ lockPath)
  readIdentity := (by decide : identityPath ≠ lockPath)
  storeIdentity := mayReplace_locked _ (by decide) (by decide) rfl
  storeKey := mayReplace_lockedKey
  removeKey _ := rfl
  crypto _ := trivial
  fill _ := trivial
  warn _ := trivial

theorem locked_ensureFabric (fabrics : List Fabric) :
    (ensureFabric ext config fabrics).run.Uses Locked := mayEnsure_locked.ensureFabric ext config fabrics

theorem locked_commission (onboarding : Onboarding) :
    (CommissionOp.run ext ctx onboarding).run.Uses Locked := by
  unfold CommissionOp.run CommissionOp.join CommissionOp.record
  refine uses_run_bind ?_ fun nodeId => uses_run_bind ((talk_readDeviceNames ext ctx nodeId trivial trivial).mono
    fun _ => Talks.locked) fun (_, _) => uses_run_bind (locked_updateDevice ext _ fun _ =>
      uses_run_bind (uses_ask trivial) fun _ => uses_run_pure _) fun _ =>
        uses_run_bind (locked_storeIdentity ext _) fun _ => uses_run_pure _
  refine uses_run_bind (uses_run_bind (uses_ask trivial) fun _ => uses_orFail _ _) fun peer => ?_
  refine uses_run_bind (uses_orFail _ _) fun _ =>
    uses_run_bind (uses_run_bind (uses_ask trivial) fun _ => uses_orFail _ _) fun _ => ?_
  refine uses_run_bind (uses_withTimeout trivial _) fun _ => ?_
  split
  · exact uses_run_throw _
  · exact uses_run_bind (uses_withTimeout trivial _) fun _ => uses_run_pure _

theorem locked_sync (manualTime : Option MatterMicros) (targets : List NodeId) :
    (SyncOp.run ext ctx manualTime targets).run.Uses Locked := by
  induction targets with
  | nil => exact uses_run_pure _
  | cons nodeId targets ih =>
      refine uses_run_bind ?_ fun _ => uses_run_bind ih fun _ => uses_run_pure _
      exact uses_run_bind (locked_updateDevice ext _ fun _ =>
          uses_run_bind (uses_ask trivial) fun _ => uses_run_pure _) fun _ =>
        uses_run_bind (uses_attempt ((talk_syncOne ext ctx nodeId manualTime).mono
          fun _ => Talks.locked)) fun _ =>
        uses_run_bind (locked_updateDevice ext _ (talk_noteOutcome _)) fun _ =>
        uses_run_bind ((talk_logOutcome _ _).mono fun _ => Talks.locked) fun _ => uses_run_pure _

theorem locked_decommission (targets : List NodeId) :
    (DecommissionOp.run ext ctx targets).run.Uses Locked := by
  induction targets with
  | nil => exact uses_run_pure _
  | cons nodeId targets ih =>
      refine uses_run_bind ?_ fun _ => uses_run_bind ih fun _ => uses_run_pure _
      refine uses_run_bind (uses_attempt ((talk_decommissionOne ext ctx nodeId).mono
        fun _ => Talks.locked)) fun r => ?_
      cases r with
      | ok _ => exact uses_run_bind (locked_removeDevice ext _) fun _ => uses_run_pure _
      | error _ => exact uses_run_bind (uses_ask trivial) fun _ => uses_run_pure _

theorem locked_runOp (op : Op) : (runOp ext ctx op).run.Uses Locked := by
  cases op with
  | commission onboarding => exact locked_commission ext ctx onboarding
  | sync targets manualTime => exact locked_sync ext ctx manualTime targets
  | decommission targets => exact locked_decommission ext ctx targets
  | inspect targets => exact (talk_inspect ext ctx targets).mono fun _ => Talks.locked

theorem locked_pickInterface : pickInterface.run.Uses Locked := by
  refine uses_run_bind (uses_run_bind (uses_ask trivial) fun _ => uses_orFail _ _) fun all => ?_
  split
  · exact uses_run_pure _
  · exact uses_run_throw _

/-- **Everything a run does while it holds the lock.** -/
theorem locked_runLocked (op : Op) : (runLocked ext config op).run.Uses Locked :=
  uses_run_bind (uses_run_bind (uses_ask trivial) fun _ => uses_orFail _ _) fun _ =>
    uses_run_bind (locked_ensureFabric ext config _) fun (_, _, _) =>
    uses_run_bind (uses_run_bind (uses_ask trivial) fun _ => uses_orFail _ _) fun _ =>
    uses_run_bind locked_pickInterface fun (_, _, _) =>
    uses_run_bind (uses_run_bind (uses_ask trivial) fun _ => uses_orFail _ _) fun _ =>
    locked_runOp ext _ op

end Locked

end MatterTimeCtl
