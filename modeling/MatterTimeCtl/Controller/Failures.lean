/-
# MatterTimeCtl.Controller.Failures — how each part of the program can fail.

Most failures are reported as they come, with texts that the program puts together.  Two kinds are special: a refusal
of `ensureFabric`, and a panic, which ends the process where it stands.  Only the reader of the controller's key
panics, so a part that does not read the key fails in the ordinary way, or with a refusal where it ensures the fabric.
Each part is shown to fail within every class of failures that has the ordinary ones whose texts are contained.
-/
import MatterTimeCtl.Cli
import MatterTimeCtl.Controller.Texts

namespace MatterTimeCtl

open Files Effect

/-- Neither a refusal nor a panic. -/
def Failure.Ordinary : Failure → Prop
  | .refused _ | .panicked => False
  | _ => True

theorem Failure.Ordinary.ne_panicked {e : Failure} (h : e.Ordinary) : e ≠ .panicked := by
  rintro rfl
  exact h

theorem failureClass_ordinary : FailureClass (fun _ => True) Failure.Ordinary where
  message _ := trivial
  io := trivial
  matter _ := trivial
  json _ := trivial
  timedOut _ := trivial
  context _ _ := trivial

theorem failureClass_steady : FailureClass (fun _ => True) (· ≠ .panicked) where
  message _ := nofun
  io := nofun
  matter _ := nofun
  json _ := nofun
  timedOut _ := nofun
  context _ _ := nofun

section Parts

variable {own : Char → Prop} {Q : Failure → Prop} (covers : FailureClass own Q)

/-- A call whose error is a failure of the class. -/
theorem failsOnly_call {c : Call} {ε α : Type} {f : ε → Failure} {g : c.Answer → Except ε α}
    (h : ∀ e, Q (f e)) : FailsOnly Q (ask c >>= fun r => orFail f (g r)) :=
  (failsOnly_ask c).bind fun r => failsOnly_orFail h (g r)

include covers

theorem failsOnly_callMatter {c : Call} {α : Type} {g : c.Answer → Except MatterError α} {what : String}
    (h : Contained own what) : FailsOnly Q (ask c >>= fun r => orFail (.matter what) (g r)) :=
  failsOnly_call fun _ => covers.matter h

/-! ## Files -/

section Files

variable (ext : Externals)

theorem failsOnly_writePrivate (path : Path) (bytes : ByteArray) : FailsOnly Q (writePrivate path bytes) := by
  have io : ∀ e, Q (.io e) := fun _ => covers.io
  unfold writePrivate
  exact FailsOnly.bind (failsOnly_call io) fun _ => FailsOnly.bind (failsOnly_call io) fun _ =>
    FailsOnly.bind (failsOnly_call io) fun _ => failsOnly_call io

theorem failsOnly_store {α : Type} (json : Codec α) (path : Path) (value : α) :
    FailsOnly Q (store json path value) := by
  have io : ∀ e, Q (.io e) := fun _ => covers.io
  unfold store
  exact FailsOnly.bind (failsOnly_call io) fun _ => (failsOnly_writePrivate covers _ _).bind fun _ =>
    failsOnly_call io

omit covers in
theorem failsOnly_loadOrDefault (path : Path) : FailsOnly Q (loadOrDefault ext path) :=
  (failsOnly_ask _).bind fun _ => failsOnly_pure _

theorem failsOnly_updateDevice (path : Path) (nodeId : NodeId) {patch : DeviceRecord → Action DeviceRecord}
    (h : ∀ d, FailsOnly Q (patch d)) : FailsOnly Q (updateDevice ext path nodeId patch) :=
  (failsOnly_loadOrDefault ext path).bind fun _ => (h _).bind fun _ => failsOnly_store covers _ _ _

theorem failsOnly_removeDevice (path : Path) (nodeId : NodeId) : FailsOnly Q (removeDevice ext path nodeId) :=
  (failsOnly_loadOrDefault ext path).bind fun _ => failsOnly_store covers _ _ _

end Files

/-! ## The fabric -/

section Fabric

variable (ext : Externals)

theorem failsOnly_persistFabric (fabrics : List Fabric) (fabIdx : FabIdx) :
    FailsOnly Q (persistFabric ext fabrics fabIdx) := by
  have persist : ∀ e, Q (.matter "persist fabric" e) := fun _ => covers.matter (contained_literal rfl)
  unfold persistFabric
  split
  · exact failsOnly_throw (persist _)
  · refine FailsOnly.bind ?_ fun r => failsOnly_orFail persist r
    refine (failsOnly_attempt _).bind fun r => ?_
    cases r <;> exact failsOnly_pure _

theorem failsOnly_removePersistedFabric (fabIdx : FabIdx) : FailsOnly Q (removePersistedFabric ext fabIdx) := by
  refine FailsOnly.bind ?_ fun r => failsOnly_orFail (fun _ => covers.matter (contained_literal rfl)) r
  refine (failsOnly_ask _).bind fun r => ?_
  split <;> exact failsOnly_pure _

theorem failsOnly_reconcileLabel (fabrics : List Fabric) (fabIdx : FabIdx) (label : String) :
    FailsOnly Q (reconcileLabel ext fabrics fabIdx label) := by
  unfold reconcileLabel
  dsimp only
  split
  · exact failsOnly_pure _
  · split
    · exact failsOnly_throw (covers.matter (contained_literal rfl))
    · exact (failsOnly_persistFabric covers ext _ _).bind fun _ => failsOnly_pure _

theorem failsOnly_mintFabric (fabrics : List Fabric) : FailsOnly Q (mintFabric fabrics) := by
  have randomId : FailsOnly Q Identity.randomId := (failsOnly_ask _).bind fun _ => failsOnly_pure _
  have generate : FailsOnly Q Identity.generate :=
    FailsOnly.bind (failsOnly_callMatter covers (contained_literal rfl)) fun _ => randomId.bind fun _ =>
      randomId.bind fun _ => failsOnly_pure _
  unfold mintFabric
  refine generate.bind fun _ => ?_
  refine FailsOnly.bind (failsOnly_callMatter covers (contained_literal rfl)) fun (_, _) => ?_
  refine FailsOnly.bind (failsOnly_callMatter covers (contained_literal rfl)) fun _ => ?_
  refine FailsOnly.bind (failsOnly_callMatter covers (contained_literal rfl)) fun _ => ?_
  refine FailsOnly.bind (failsOnly_callMatter covers (contained_literal rfl)) fun _ => ?_
  refine FailsOnly.bind (failsOnly_callMatter covers (contained_literal rfl)) fun _ => ?_
  refine FailsOnly.bind (failsOnly_callMatter covers (contained_literal rfl)) fun _ => ?_
  refine FailsOnly.bind (failsOnly_callMatter covers (contained_literal rfl)) fun _ => ?_
  refine (failsOnly_ask _).bind fun _ => ?_
  exact FailsOnly.bind (failsOnly_callMatter covers (contained_literal rfl)) fun _ => failsOnly_pure _

theorem failsOnly_bootstrapFabric (config : Config) (fabrics : List Fabric) :
    FailsOnly Q (bootstrapFabric ext config fabrics) := by
  refine (failsOnly_mintFabric covers fabrics).bind fun (_, _, _) =>
    (failsOnly_persistFabric covers ext _ _).bind fun _ => ?_
  refine (failsOnly_store covers _ _ _).attempt_bind fun r hr => ?_
  cases r with
  | ok _ => exact failsOnly_pure _
  | error cause => exact failsOnly_throw (covers.context (contained_literal rfl) (hr cause rfl))

end Fabric

end Parts

section Ensure

variable {own : Char → Prop} {Q : Failure → Prop} {ext : Externals} {config : Config}
  (covers : RunFailureClass own Q ext config)
include covers

theorem failsOnly_refuseOrBootstrap (fabrics : List Fabric) (registry : Devices) :
    FailsOnly Q (refuseOrBootstrap ext config fabrics registry) := by
  refine (failsOnly_ask _).bind fun found => ?_
  split
  · exact failsOnly_throw (covers.refused _)
  · split
    · exact failsOnly_throw (covers.refused _)
    · exact failsOnly_bootstrapFabric covers.toFailureClass ext config fabrics

theorem failsOnly_ensureFabric (fabrics : List Fabric) : FailsOnly Q (ensureFabric ext config fabrics) := by
  refine (failsOnly_loadOrDefault ext _).bind fun registry => ?_
  split
  · refine (failsOnly_ask _).bind fun answer => ?_
    split
    · split
      · rename_i cause hparse
        have unparsed := covers.json (covers.identityError _ cause hparse)
        exact failsOnly_throw (covers.context (contained_literal rfl) unparsed)
      · exact (failsOnly_reconcileLabel covers.toFailureClass ext _ _ _).bind fun _ => failsOnly_pure _
    · split
      · refine (failsOnly_ask _).bind fun _ => ?_
        exact (failsOnly_removePersistedFabric covers.toFailureClass ext _).bind fun _ =>
          failsOnly_refuseOrBootstrap covers _ _
      · exact failsOnly_throw (covers.refused _)
  · exact failsOnly_refuseOrBootstrap covers _ _

end Ensure

/-! ## Operations -/

section Parts

variable {own : Char → Prop} {Q : Failure → Prop} (covers : FailureClass own Q)
include covers

section Ops

variable (ext : Externals) (ctx : Ctx)

theorem failsOnly_withTimeout {what : String} (h : Contained own what) (secs : Nat) (future : Future) :
    FailsOnly Q (withTimeout what secs future) := by
  refine (failsOnly_ask _).bind fun r => ?_
  cases r with
  | none => exact failsOnly_throw (covers.timedOut h)
  | some r => exact failsOnly_orFail (fun _ => covers.matter h) r

/-- By induction on the attempts that are left. -/
theorem failsOnly_connectLoop (nodeId : NodeId) (left : Nat) :
    FailsOnly Q (connectLoop ext ctx nodeId (left + 1)) := by
  have reaching : Contained own ("reaching node " ++ toString nodeId ++ " (offline or unresolvable?)") :=
    ((contained_literal rfl).append (contained_u64 nodeId)).append (contained_literal rfl)
  induction left with
  | zero =>
      refine (failsOnly_withTimeout covers reaching _ _).attempt_bind fun r hr => ?_
      cases r with
      | ok _ => exact failsOnly_pure _
      | error e => exact failsOnly_throw (hr e rfl)
  | succ left ih =>
      refine (failsOnly_attempt _).bind fun r => ?_
      cases r with
      | ok _ => exact failsOnly_pure _
      | error e => exact (failsOnly_ask _).bind fun _ => (failsOnly_ask _).bind fun _ => ih

theorem failsOnly_connect (nodeId : NodeId) : FailsOnly Q (connect ext ctx nodeId) :=
  failsOnly_connectLoop covers ext ctx nodeId 2

theorem failsOnly_request (nodeId : NodeId) (r : Request) {what : String} (h : Contained own what) :
    FailsOnly Q (request ext ctx nodeId r what) :=
  (failsOnly_connect covers ext ctx nodeId).bind fun _ => failsOnly_callMatter covers h

/-! ### Commission -/

omit covers in
theorem failsOnly_readDeviceNames (nodeId : NodeId) : FailsOnly Q (readDeviceNames ext ctx nodeId) :=
  (failsOnly_attempt _).bind fun _ => (failsOnly_attempt _).bind fun _ => failsOnly_pure _

theorem hexDecodePairs_fails (panicked : Q .panicked) {bytes : List UInt8} {e : Failure}
    (h : hexDecodePairs bytes = .error e) : Q e := by
  fun_induction hexDecodePairs bytes with
  | case1 hi lo rest cut =>
      cases h
      exact panicked
  | case2 hi lo rest uncut bad =>
      cases h
      exact covers.context (contained_literal rfl) (covers.message (contained_literal rfl))
  | case3 hi lo rest uncut b good ih =>
      cases hrest : hexDecodePairs rest with
      | ok bytes =>
          rw [hrest] at h
          cases h
      | error e' =>
          rw [hrest] at h
          cases h
          exact ih hrest
  | case4 => cases h

theorem rcacPrivkey_fails (panicked : Q .panicked) {identity : Identity} {e : Failure}
    (h : identity.rcacPrivkey = .error e) : Q e := by
  have decoder : ∀ cause, hexDecode identity.rcacPrivkeyHex = .error cause → Q cause := by
    intro cause hcause
    unfold hexDecode at hcause
    split at hcause
    · cases hcause
      exact covers.message (contained_literal rfl)
    · exact hexDecodePairs_fails covers panicked hcause
  unfold Identity.rcacPrivkey at h
  split at h
  · cases h
    exact panicked
  · rename_i cause _ hcause
    cases h
    exact covers.context (contained_literal rfl) (decoder cause hcause)
  · split at h
    · cases h
    · cases h
      exact covers.message ((contained_literal rfl).append (contained_nat _))

/-- Only the key can make a commission panic. -/
theorem failsOnly_join (panicked : Q .panicked) (onboarding : Onboarding) :
    FailsOnly Q (CommissionOp.join ctx onboarding) := by
  unfold CommissionOp.join
  refine FailsOnly.bind (failsOnly_callMatter covers (contained_literal rfl)) fun peer => ?_
  refine FailsOnly.bind ?_ fun _ => ?_
  · cases hkey : ctx.identity.rcacPrivkey with
    | ok key => exact failsOnly_pure _
    | error e => exact failsOnly_throw (rcacPrivkey_fails covers panicked hkey)
  refine FailsOnly.bind (failsOnly_callMatter covers (contained_literal rfl)) fun _ => ?_
  refine (failsOnly_withTimeout covers (contained_literal rfl) _ _).bind fun _ => ?_
  split
  · exact FailsOnly.bind (failsOnly_throw (covers.matter (contained_literal rfl))) fun _ => failsOnly_pure _
  · exact (failsOnly_withTimeout covers (contained_literal rfl) _ _).bind fun _ => failsOnly_pure _

theorem failsOnly_record (deviceNodeId : NodeId) : FailsOnly Q (CommissionOp.record ext ctx deviceNodeId) := by
  refine (failsOnly_readDeviceNames ext ctx deviceNodeId).bind fun (vendorName, productName) => ?_
  refine (failsOnly_updateDevice covers ext _ _ fun _ => ?_).bind fun _ => ?_
  · exact (failsOnly_ask _).bind fun _ => failsOnly_pure _
  · exact (failsOnly_store covers _ _ _).bind fun _ => failsOnly_pure _

/-! ### Sync -/

theorem failsOnly_writeZoneAndDst (nodeId : NodeId) (tz : TimeZone) (nowTs : Timestamp) :
    FailsOnly Q (writeZoneAndDst ext ctx nodeId tz nowTs) := by
  refine (failsOnly_request covers ext ctx nodeId _ (contained_literal rfl)).bind fun response => ?_
  refine FailsOnly.bind (failsOnly_callMatter covers (contained_literal rfl)) fun _ => ?_
  split
  · exact failsOnly_pure _
  · refine (failsOnly_request covers ext ctx nodeId _ (contained_literal rfl)).bind fun _ => ?_
    exact (failsOnly_request covers ext ctx nodeId _ (contained_literal rfl)).bind fun _ => failsOnly_pure _

theorem failsOnly_writeClock (nodeId : NodeId) (hasTimeZone : Bool) (utcWrite : MatterMicros)
    (nowTs : Timestamp) : FailsOnly Q (writeClock ext ctx nodeId hasTimeZone utcWrite nowTs) := by
  refine (failsOnly_request covers ext ctx nodeId _ (contained_literal rfl)).bind fun _ => ?_
  split
  · exact failsOnly_writeZoneAndDst covers ext ctx nodeId _ _
  · exact failsOnly_pure _

theorem failsOnly_verifyClock (nodeId : NodeId) (utcWrite : MatterMicros) :
    FailsOnly Q (verifyClock ext ctx nodeId utcWrite) := by
  refine (failsOnly_request covers ext ctx nodeId _ (contained_literal rfl)).bind fun after => ?_
  dsimp only
  split
  · refine FailsOnly.bind (failsOnly_throw (covers.message ?_)) fun _ => failsOnly_pure _
    exact (contained_literal rfl).append (contained_assessment _)
  · exact failsOnly_pure _

theorem failsOnly_readFeatureMap (nodeId : NodeId) : FailsOnly Q (readFeatureMap ext ctx nodeId) := by
  refine (failsOnly_connect covers ext ctx nodeId).bind fun exchange => (failsOnly_ask _).bind fun reply => ?_
  cases reply with
  | ok map => exact failsOnly_pure _
  | error e =>
      dsimp only
      split
      · exact (failsOnly_ask _).bind fun _ => failsOnly_pure _
      · exact failsOnly_throw (covers.matter (contained_literal rfl))

omit covers in
theorem failsOnly_ensureFabricLabel (nodeId : NodeId) : FailsOnly Q (ensureFabricLabel ext ctx nodeId) := by
  refine (failsOnly_attempt _).bind fun r => ?_
  cases r with
  | ok _ => exact failsOnly_pure _
  | error e => exact failsOnly_ask _

theorem failsOnly_syncOne (nodeId : NodeId) (manualTime : Option MatterMicros) :
    FailsOnly Q (syncOne ext ctx nodeId manualTime) := by
  refine (failsOnly_ask _).bind fun nowTs => ?_
  refine (failsOnly_readFeatureMap covers ext ctx nodeId).bind fun featureMap => ?_
  cases featureMap with
  | none => exact failsOnly_pure _
  | some featureMap =>
      have now : FailsOnly Q matterNow := (failsOnly_ask _).bind fun _ => failsOnly_pure _
      have value : FailsOnly Q (utcToWrite manualTime) := by
        cases manualTime with
        | none => exact now
        | some instant => exact failsOnly_pure _
      refine (failsOnly_request covers ext ctx nodeId _ (contained_literal rfl)).bind fun deviceBefore => ?_
      refine now.bind fun _ => value.bind fun utcWrite => ?_
      refine (failsOnly_writeClock covers ext ctx nodeId _ _ _).bind fun (_, _) => ?_
      refine (failsOnly_verifyClock covers ext ctx nodeId _).bind fun _ => ?_
      exact (failsOnly_ensureFabricLabel ext ctx nodeId).bind fun _ => failsOnly_pure _

omit covers in
theorem failsOnly_noteOutcome (outcome : SyncOutcome) (d : DeviceRecord) :
    FailsOnly Q (SyncOp.noteOutcome outcome d) := by
  unfold SyncOp.noteOutcome
  split
  · exact (failsOnly_ask _).bind fun _ => (failsOnly_ask _).bind fun _ => failsOnly_pure _
  · exact failsOnly_pure _

/-- What goes wrong with a target is part of its outcome; only the registry can fail a sync. -/
theorem failsOnly_syncOp (manualTime : Option MatterMicros) (targets : List NodeId) :
    FailsOnly Q (SyncOp.run ext ctx manualTime targets) := by
  induction targets with
  | nil => exact failsOnly_pure _
  | cons nodeId targets ih =>
      refine FailsOnly.bind ?_ fun outcome => ih.bind fun outcomes => failsOnly_pure _
      refine (failsOnly_updateDevice covers ext _ _ fun d => ?_).bind fun _ => ?_
      · exact (failsOnly_ask _).bind fun _ => failsOnly_pure _
      refine (failsOnly_attempt _).bind fun result => ?_
      refine (failsOnly_updateDevice covers ext _ _ (failsOnly_noteOutcome _)).bind fun _ => ?_
      refine FailsOnly.bind ?_ fun _ => failsOnly_pure _
      cases (SyncOp.outcomeOf ext ctx nodeId result).error with
      | none => exact failsOnly_pure _
      | some error => exact failsOnly_ask _

/-! ### Decommission and inspect -/

theorem failsOnly_decommissionOp (targets : List NodeId) :
    FailsOnly Q (DecommissionOp.run ext ctx targets) := by
  induction targets with
  | nil => exact failsOnly_pure _
  | cons nodeId targets ih =>
      refine FailsOnly.bind ?_ fun outcome => ih.bind fun outcomes => failsOnly_pure _
      refine (failsOnly_attempt _).bind fun result => ?_
      cases result with
      | ok _ => exact (failsOnly_removeDevice covers ext _ _).bind fun _ => failsOnly_pure _
      | error e => exact (failsOnly_ask _).bind fun _ => failsOnly_pure _

theorem failsOnly_readOurFabricEntry (nodeId : NodeId) : FailsOnly Q (readOurFabricEntry ext ctx nodeId) :=
  (failsOnly_request covers ext ctx nodeId _ (contained_literal rfl)).bind fun _ =>
    failsOnly_orFail (fun _ => covers.matter (contained_literal rfl)) _

theorem failsOnly_inspectOne (nodeId : NodeId) : FailsOnly Q (inspectOne ext ctx nodeId) := by
  refine (failsOnly_readDeviceNames ext ctx nodeId).bind fun (_, _) => ?_
  refine (failsOnly_request covers ext ctx nodeId _ (contained_literal rfl)).bind fun _ => ?_
  refine (failsOnly_request covers ext ctx nodeId _ (contained_literal rfl)).bind fun _ => ?_
  refine (failsOnly_request covers ext ctx nodeId _ (contained_literal rfl)).bind fun _ => ?_
  refine FailsOnly.bind ?_ fun _ => ?_
  · unfold readDstMax
    split
    · exact (failsOnly_connect covers ext ctx nodeId).bind fun _ => (failsOnly_ask _).bind fun _ =>
        failsOnly_pure _
    · exact failsOnly_pure _
  · exact (failsOnly_readOurFabricEntry covers ext ctx nodeId).bind fun (_, _) => failsOnly_pure _

omit covers in
theorem failsOnly_inspectOp (targets : List NodeId) : FailsOnly Q (InspectOp.run ext ctx targets) := by
  induction targets with
  | nil => exact failsOnly_pure _
  | cons nodeId targets ih =>
      refine FailsOnly.bind ?_ fun outcome => ih.bind fun outcomes => failsOnly_pure _
      refine (failsOnly_attempt _).bind fun result => ?_
      cases result with
      | ok _ => exact failsOnly_pure _
      | error e => exact (failsOnly_ask _).bind fun _ => failsOnly_pure _

end Ops

/-! ## Runs and commands -/

section Run

variable (ext : Externals) (config : Config)

theorem failsOnly_prepareStorageDir : FailsOnly Q (prepareStorageDir config) := by
  have ours : FailsOnly Q isOurStorageDir := by
    refine FailsOnly.bind ?_ fun marked => ?_
    · refine (failsOnly_ask _).bind fun _ => ?_
      split
      · exact failsOnly_pure _
      refine (failsOnly_ask _).bind fun _ => ?_
      split
      · exact failsOnly_pure _
      refine (failsOnly_ask _).bind fun _ => ?_
      split
      · exact failsOnly_pure _
      exact failsOnly_ask _
    · split
      · exact failsOnly_pure _
      refine (failsOnly_ask _).bind fun entries => ?_
      split <;> exact failsOnly_pure _
  refine (failsOnly_ask _).bind fun found => ?_
  split
  · exact failsOnly_call fun _ => covers.context (contained_literal rfl) covers.io
  · refine ours.bind fun ours => ?_
    split
    · exact failsOnly_call fun _ => covers.context (contained_literal rfl) covers.io
    · exact failsOnly_ask _

theorem failsOnly_lockStorage (storagePath : Contained own config.storagePath.display) (op : Op) :
    FailsOnly Q (lockStorage config op) := by
  refine FailsOnly.bind (failsOnly_call fun _ => covers.context (contained_literal rfl) covers.io) fun _ => ?_
  refine (failsOnly_ask _).bind fun granted => ?_
  split
  · exact failsOnly_throw (covers.message ((contained_literal rfl).append storagePath))
  · exact failsOnly_pure _

theorem failsOnly_pickInterface : FailsOnly Q pickInterface := by
  refine FailsOnly.bind (failsOnly_call fun _ => covers.context (contained_literal rfl) covers.io) fun all => ?_
  split
  · exact failsOnly_pure _
  · exact failsOnly_throw (covers.message (contained_literal rfl))

theorem failsOnly_resolveOrEmpty (target : Option NodeId) : FailsOnly Q (resolveOrEmpty ext target) := by
  refine (failsOnly_loadOrDefault ext _).bind fun devices => ?_
  cases target with
  | none => exact failsOnly_pure _
  | some node =>
      dsimp only
      split
      · exact failsOnly_pure _
      · refine failsOnly_throw (covers.message ?_)
        have known : Contained own (if devices.nodeIds.isEmpty then "none"
            else ", ".intercalate (devices.nodeIds.map toString)) := by
          split
          · exact contained_literal rfl
          · refine contained_intercalate (contained_literal rfl) fun s hs => ?_
            obtain ⟨n, -, rfl⟩ := List.mem_map.mp hs
            exact contained_u64 n
        exact ((((contained_literal rfl).append (contained_u64 node)).append
          (contained_literal rfl)).append known).append (contained_literal rfl)

theorem failsOnly_resolve (target : Option NodeId) : FailsOnly Q (resolve ext target) := by
  refine (failsOnly_resolveOrEmpty covers ext target).bind fun targets => ?_
  dsimp only
  split
  · exact FailsOnly.bind (failsOnly_throw (covers.message (contained_literal rfl))) fun _ => failsOnly_pure _
  · exact failsOnly_pure _

end Run

end Parts

section Run

variable {own : Char → Prop} {Q : Failure → Prop} {ext : Externals} {config : Config}

/-- A run whose operation fails within the class does so too. -/
theorem failsOnly_run (covers : RunFailureClass own Q ext config) (op : Op)
    (operation : ∀ ctx, ctx.config = config → FailsOnly Q (runOp ext ctx op)) :
    FailsOnly Q (run ext config op) := by
  have plain : FailureClass own Q := covers.toFailureClass
  have bound : ∀ {c : Call} {α : Type} {g : c.Answer → Except IoError α} {what : String}, Contained own what →
      FailsOnly Q (ask c >>= fun r => orFail (fun e => .context what (.io e)) (g r)) := fun h =>
    failsOnly_call fun _ => covers.context h covers.io
  have locked : FailsOnly Q (runLocked ext config op) := by
    refine FailsOnly.bind (failsOnly_callMatter plain (contained_literal rfl)) fun fabrics => ?_
    refine (failsOnly_ensureFabric covers fabrics).bind fun (fabrics, fabIdx, identity) => ?_
    refine FailsOnly.bind (bound (contained_literal rfl)) fun _ => ?_
    refine (failsOnly_pickInterface plain).bind fun (_, _, interface) => ?_
    exact FailsOnly.bind (bound (contained_literal rfl)) fun _ => operation _ rfl
  refine (failsOnly_prepareStorageDir plain config).bind fun _ => ?_
  refine (failsOnly_lockStorage plain config covers.storagePath op).bind fun _ => ?_
  refine locked.attempt_bind fun result hresult => (failsOnly_ask _).bind fun _ => ?_
  cases result with
  | ok out => exact failsOnly_pure out
  | error e => exact failsOnly_throw (hresult e rfl)

/-! ### Status -/

theorem succeeds_identityStatus (ext : Externals) : Succeeds (identityStatus ext) := by
  have hblob : Succeeds fabricExists := by
    refine (Succeeds.ask _).bind fun entries => ?_
    split <;> exact .pure _
  refine (Succeeds.ask _).bind fun found => hblob.bind fun blob => ?_
  unfold classifyIdentity
  split
  · exact .pure _
  · exact .pure _
  · exact .pure _
  · refine (Succeeds.ask _).bind fun raw => ?_
    split
    · exact .pure _
    · split <;> exact .pure _

theorem succeeds_runStatus (ext : Externals) (config : Config) (filter : Option NodeId) :
    Succeeds (runStatus ext config filter) := by
  refine (Succeeds.ask _).bind fun now => ?_
  refine Succeeds.bind ((Succeeds.ask _).bind fun _ => .pure _) fun devices => ?_
  refine (succeeds_identityStatus ext).bind fun identity => ?_
  refine (Succeeds.ask _).bind fun initialized => (Succeeds.ask _).bind fun ntp => ?_
  exact Succeeds.bind ((Succeeds.ask _).bind fun _ => .pure _) fun micros => .pure _

/-! ### Commands that do not panic -/

theorem contained_any (s : String) : Contained (fun _ => True) s := fun _ _ _ => trivial

theorem runFailureClass_steady (ext : Externals) (config : Config) :
    RunFailureClass (fun _ => True) (· ≠ .panicked) ext config where
  toFailureClass := failureClass_steady
  refused _ := nofun
  identityError _ _ _ := contained_any _
  storagePath := contained_any _

theorem failsOnly_manualTimeOf (ext : Externals) (config : Config) (time : Option String) :
    FailsOnly (· ≠ .panicked) (manualTimeOf ext config time) := by
  cases time with
  | none => exact failsOnly_pure _
  | some raw =>
      refine FailsOnly.map ?_ _
      refine (failsOnly_orFail (fun _ => nofun) _).bind fun wall => (failsOnly_ask _).bind fun now => ?_
      dsimp only
      split
      · exact failsOnly_pure _
      · exact failsOnly_throw nofun

/-- The commands that do not commission do not panic. -/
theorem failsOnly_runCommand (ext : Externals) (config : Config) {command : Command}
    (h : ∀ onboarding, command ≠ .commission onboarding) :
    FailsOnly (· ≠ .panicked) (runCommand ext config command) := by
  have steady := runFailureClass_steady ext config
  cases command with
  | status filter => exact (succeeds_runStatus ext config filter).failsOnly
  | commission onboarding => exact absurd rfl (h onboarding)
  | sync target time =>
      refine (failsOnly_manualTimeOf ext config time).bind fun manualTime => ?_
      refine (failsOnly_ask _).bind fun ntp => ?_
      split
      · exact (failsOnly_ask _).bind fun _ => failsOnly_pure _
      · refine (failsOnly_resolve failureClass_steady ext target).bind fun targets => ?_
        exact (failsOnly_run steady (.sync targets manualTime) fun ctx _ =>
          failsOnly_syncOp failureClass_steady ext ctx manualTime targets).bind fun _ => failsOnly_pure _
  | decommission target =>
      refine (failsOnly_resolve failureClass_steady ext target).bind fun targets => ?_
      refine (failsOnly_run steady (.decommission targets) fun ctx _ =>
        failsOnly_decommissionOp failureClass_steady ext ctx targets).bind ?_
      exact fun _ => (failsOnly_loadOrDefault ext _).bind fun _ => failsOnly_pure _
  | inspect target =>
      refine (failsOnly_resolveOrEmpty failureClass_steady ext target).bind fun targets => ?_
      split
      · exact failsOnly_pure _
      · exact (failsOnly_run steady (.inspect targets) fun ctx _ =>
          failsOnly_inspectOp ext ctx targets).bind fun _ => failsOnly_pure _

end Run

end MatterTimeCtl
