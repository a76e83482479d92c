/-
# MatterTimeCtl.Controller.Ops — the on-wire operations: commission, sync, decommission, inspect.

Every read and invoke opens its own exchange, and opening one may take several attempts.  An operation
gets the harness's context (the loaded fabrics, the fabric's index, the identity, the configuration);
the registry is updated after each device, never in one go at the end.
-/
import MatterTimeCtl.Controller.Fabric

namespace MatterTimeCtl

open Files Effect

/-- Everything an operation needs, handed over by the harness. -/
structure Ctx where
  fabrics : List Fabric
  fabIdx : FabIdx
  identity : Identity
  config : Config

/-- How long to look for a commissionable device. -/
def browseTimeoutMs : Nat := 30000

/-- Per-phase bound for commissioning. -/
def commissionTimeoutSecs : Nat := 60

/-- Bound for opening a CASE exchange to a commissioned node. -/
def connectTimeoutSecs : Nat := 30

/-- How many times to attempt an mDNS resolve and CASE connect. -/
def connectAttempts : Nat := 3

/-- Pause between connect attempts. -/
def connectRetryDelaySecs : Nat := 2

/-- How far the clock that is read back may be from what was written. -/
def verifyToleranceMicros : Int := 5000000

/-- The TimeZone feature bit of a Time Synchronization cluster. -/
def featureTimeZone : UInt32 := (1 : UInt32) <<< (0 : UInt32)

/-- Bounds an operation that could otherwise hang. -/
def withTimeout (what : String) (secs : Nat) (future : Future) : Action Unit := do
  match ← ask (.timed secs future) with
  | some result => orFail (.matter what) result
  | none => throw (.timedOut what secs)

section Ops

variable (ext : Externals) (ctx : Ctx)

/-- The attempts of `connect` that are left, each a resolve and handshake with a pause in between. -/
def connectLoop (nodeId : NodeId) : Nat → Action NodeId
  | 0 => throw .panicked
  | left + 1 => do
    match ← attempt (withTimeout ("reaching node " ++ toString nodeId ++ " (offline or unresolvable?)")
        connectTimeoutSecs (.initiate nodeId)) with
    | .ok () => return nodeId
    | .error error =>
      if left = 0 then throw error
      else
        logWarn ("Node " ++ toString nodeId ++ ": connect attempt " ++
          toString (connectAttempts - left) ++ "/" ++ toString connectAttempts ++ " failed (" ++
          ext.render ctx.config error ++ "); retrying in " ++ toString connectRetryDelaySecs ++ "s")
        ask (.sleep connectRetryDelaySecs)
        connectLoop nodeId left

/-- Opens an exchange over CASE to a commissioned node. -/
def connect (nodeId : NodeId) : Action NodeId := connectLoop ext ctx nodeId connectAttempts

/-- One transaction on a fresh exchange. -/
def request (nodeId : NodeId) (r : Request) (what : String) : Action r.Reply := do
  let exchange ← connect ext ctx nodeId
  let reply ← ask (.wire exchange r)
  orFail (.matter what) reply

/-! ## Commission -/

/-- A control character of the C0 or C1 range, or DEL. -/
def isControl (c : Char) : Bool := c.toNat < 32 || (127 ≤ c.toNat && c.toNat < 160)

/-- Replaces control characters with '?'. -/
def sanitize (value : String) : String :=
  value.map fun c => if isControl c then '?' else c

/-- A name the device supplies, fit for the operator's terminal. -/
def readVendorName (nodeId : NodeId) : Action String := do
  let value ← request ext ctx nodeId .vendorNameRead "read vendorName"
  return sanitize (← orFail (.matter "parse vendorName") value)

/-- The same for the product name; only the messages differ. -/
def readProductName (nodeId : NodeId) : Action String := do
  let value ← request ext ctx nodeId .productNameRead "read productName"
  return sanitize (← orFail (.matter "parse productName") value)

/-- `Result::ok`. -/
def okOf {ε α : Type} : Except ε α → Option α
  | .ok a => some a
  | .error _ => none

/-- The device's vendor and product names, each best-effort. -/
def readDeviceNames (nodeId : NodeId) : Action (Option String × Option String) := do
  let vendorName ← attempt (readVendorName ext ctx nodeId)
  let productName ← attempt (readProductName ext ctx nodeId)
  return (okOf vendorName, okOf productName)

namespace CommissionOp

/-- Discovery and the two commissioning phases: when this returns, the device has accepted
CommissioningComplete and is a node of the fabric under the identity's next node id. -/
def join (onboarding : Onboarding) : Action NodeId := do
  let peer ← ask (.browse onboarding.shortDiscriminator browseTimeoutMs) >>=
    orFail (.matter "no commissionable device found (is the pairing window open?)")
  let deviceNodeId := ctx.identity.nextDeviceNodeId
  let rcacPrivkey ← orFail id ctx.identity.rcacPrivkey
  ask (.crypto (.nocGeneratorNew rcacPrivkey ctx.fabIdx)) >>=
    orFail (.matter "NOC generator from persisted identity")
  withTimeout "commissioning over PASE" commissionTimeoutSecs
    (.commission peer onboarding.passcode deviceNodeId)
  match ctx.fabrics.find? (·.fabIdx = ctx.fabIdx) with
  | none => throw (.matter "CommissioningComplete over CASE" ⟨.notFound⟩)
  | some fabric =>
    withTimeout "CommissioningComplete over CASE" commissionTimeoutSecs
      (.completeViaCase peer fabric deviceNodeId)
  return deviceNodeId

/-- Record the device, then move the node id counter on.  The counter wraps at the 64-bit limit. -/
def record (deviceNodeId : NodeId) : Action CommissionOutcome := do
  let (vendorName, productName) ← readDeviceNames ext ctx deviceNodeId
  updateDevice ext devicesPath deviceNodeId fun device => do
    let now ← ask .now
    return { device with vendorName, productName, lastSuccessfulConnection := some now }
  let identity := { ctx.identity with nextDeviceNodeId := ctx.identity.nextDeviceNodeId + 1 }
  store ext.identityJson identityPath identity
  return { nodeId := deviceNodeId, fabricId := ctx.identity.fabricId, vendorName, productName }

/-- A device that has joined is recorded; a failure in between leaves it joined and unrecorded. -/
def run (onboarding : Onboarding) : Action CommissionOutcome := do
  let deviceNodeId ← join ctx onboarding
  record ext ctx deviceNodeId

end CommissionOp

/-! ## Sync -/

/-- The present instant as Matter time. -/
def matterNow : Action MatterMicros := do
  return .fromTimestamp (← ask .now)

/-- Whether the device asks for DST offsets; it does unless it says that it does not. -/
def dstRequiredOf : Except MatterError (Except MatterError Bool) → Bool
  | .ok (.ok required) => required
  | _ => true

/-- Writes SetTimeZone and, when the device still needs it, SetDSTOffset. -/
def writeZoneAndDst (nodeId : NodeId) (tz : TimeZone) (nowTs : Timestamp) :
    Action (Option String × Nat) := do
  let timezone := ctx.config.timezone
  let zoneEntries := buildTimeZoneList tz timezone nowTs
  let response ← request ext ctx nodeId (.setTimeZone zoneEntries) "SetTimeZone rejected"
  ask (.wire nodeId .complete) >>= orFail (.matter "SetTimeZone completion")
  if !dstRequiredOf response then return (some timezone, 0)
  let maxEntries ← request ext ctx nodeId .dstOffsetListMaxSizeRead "read dstOffsetListMaxSize"
  let dstEntries := buildDstOffsetList tz maxEntries.toNat nowTs
  request ext ctx nodeId (.setDstOffset dstEntries) "SetDSTOffset rejected"
  return (some timezone, dstEntries.length)

/-- Our own entry in the device's fabric table; a fabric-filtered read returns only ours, so the loop
keeps the last row. -/
def lastFabricEntry : List (Except MatterError FabricEntry) → Option String × Option UInt8 →
    Except MatterError (Option String × Option UInt8)
  | [], kept => .ok kept
  | item :: items, _ => do
    let item ← item
    let label ← item.label
    let index ← item.fabricIndex
    lastFabricEntry items (some label, index)

/-- The label is handed on as the device sent it. -/
def readOurFabricEntry (nodeId : NodeId) : Action (Option String × Option UInt8) := do
  let reader ← request ext ctx nodeId .fabricsRead "read fabrics"
  orFail (.matter "parse fabrics") (reader >>= fun items => lastFabricEntry items (none, none))

/-- The status in the device's response is not looked at. -/
def tryEnsureFabricLabel (nodeId : NodeId) : Action Unit := do
  let wanted := ctx.config.fabricLabel
  let (current, _) ← readOurFabricEntry ext ctx nodeId
  if current = some wanted then return ()
  let _status ← request ext ctx nodeId (.updateFabricLabel wanted) "UpdateFabricLabel"
  ask (.wire nodeId .complete) >>= orFail (.matter "UpdateFabricLabel completion")

/-- Pushes the configured fabric label to the device, best-effort. -/
def ensureFabricLabel (nodeId : NodeId) : Action Unit := do
  match ← attempt (tryEnsureFabricLabel ext ctx nodeId) with
  | .ok () => return ()
  | .error error =>
    logWarn ("Node " ++ toString nodeId ++ ": could not update fabric label: " ++
      ext.render ctx.config error)

/-- The feature map of a device's Time Synchronization cluster, `none` when it has no such cluster. -/
def readFeatureMap (nodeId : NodeId) : Action (Option UInt32) := do
  let exchange ← connect ext ctx nodeId
  match ← ask (.wire exchange .featureMapRead) with
  | .ok map => return some map
  | .error e =>
    if e.code = .clusterNotFound then
      logWarn ("Node " ++ toString nodeId ++ ": no Time Synchronization cluster; skipping")
      return none
    else throw (.matter "read featureMap" e)

/-- The two writes of a sync: SetUTCTime with `utcWrite`, then zone and DST where the device has the
TimeZone feature. -/
def writeClock (nodeId : NodeId) (hasTimeZone : Bool) (utcWrite : MatterMicros)
    (nowTs : Timestamp) : Action (Option String × Nat) := do
  request ext ctx nodeId (.setUtcTime utcWrite) "SetUTCTime rejected"
  if hasTimeZone then writeZoneAndDst ext ctx nodeId ctx.config.timeZone nowTs
  else return (none, 0)

/-- Verify by reading the clock back, against what was written. -/
def verifyClock (nodeId : NodeId) (utcWrite : MatterMicros) : Action ClockAssessment := do
  let after ← request ext ctx nodeId .utcTimeRead "read-back utcTime"
  let afterAssessment := ClockAssessment.compare after utcWrite
  if !afterAssessment.withinTolerance verifyToleranceMicros then
    throw (.message ("read-back verification failed: " ++ afterAssessment.display))
  return afterAssessment

/-- The value to write: the operator's, or the present instant. -/
def utcToWrite : Option MatterMicros → Action MatterMicros
  | some manualTime => pure manualTime
  | none => matterNow

/-- Assess, write, verify, and then the label, which cannot fail a sync.  The zone and the DST list are built at
`nowTs`, before the first connect. -/
def syncOne (nodeId : NodeId) (manualTime : Option MatterMicros) : Action SyncOutcome := do
  let nowTs ← ask .now
  match ← readFeatureMap ext ctx nodeId with
  | none => return .skippedWith nodeId "no Time Synchronization cluster"
  | some featureMap =>
    let hasTimeZone := featureMap &&& featureTimeZone ≠ 0
    -- Before: read the device clock live for the correction report.
    let deviceBefore ← request ext ctx nodeId .utcTimeRead "read utcTime"
    let assessment := ClockAssessment.compare deviceBefore (← matterNow)
    let utcWrite ← utcToWrite manualTime
    let (timeZoneWritten, dstEntriesWritten) ←
      writeClock ext ctx nodeId hasTimeZone utcWrite nowTs
    let afterAssessment ← verifyClock ext ctx nodeId utcWrite
    ensureFabricLabel ext ctx nodeId
    return {
      nodeId, success := true, skipped := false, error := none
      clockBefore := some assessment.display, epochShifted := assessment.isEpochShifted
      utcTimeWritten := some (utcWrite.display ext.fromMicrosecond ext.timestampDisplay)
      timeZoneWritten, dstEntriesWritten
      deltaAfterMicros := afterAssessment.effectiveDeltaMicros, verified := true }

namespace SyncOp

/-- What the registry keeps of an outcome. -/
def noteOutcome (outcome : SyncOutcome) (d : DeviceRecord) : Action DeviceRecord := do
  if outcome.success then
    let synced ← ask .now
    let connected ← ask .now
    return { d with
      lastSuccessfulSync := some synced, lastSuccessfulConnection := some connected
      lastError := none }
  else return { d with lastError := outcome.error }

/-- A sync that failed or was skipped is an error in the log. -/
def logOutcome (nodeId : NodeId) : Option String → Action Unit
  | some error => logError ("Node " ++ toString nodeId ++ ": sync failed: " ++ error)
  | none => pure ()

/-- The outcome of a node, errored attempts included. -/
def outcomeOf (nodeId : NodeId) : Except Failure SyncOutcome → SyncOutcome
  | .ok outcome => outcome
  | .error error => .failed nodeId (ext.render ctx.config error)

/-- One target: note the attempt, sync, note the outcome. -/
def step (manualTime : Option MatterMicros) (nodeId : NodeId) : Action SyncOutcome := do
  updateDevice ext devicesPath nodeId fun d => do
    let now ← ask .now
    return { d with lastAttemptedSync := some now }
  let result ← attempt (syncOne ext ctx nodeId manualTime)
  let outcome := outcomeOf ext ctx nodeId result
  updateDevice ext devicesPath nodeId (noteOutcome outcome)
  logOutcome nodeId outcome.error
  return outcome

/-- One outcome for each target, in order; what one node does never ends the loop, a failing registry write does. -/
def run (manualTime : Option MatterMicros) : List NodeId → Action (List SyncOutcome)
  | [] => return []
  | nodeId :: targets => do
    let outcome ← step ext ctx manualTime nodeId
    let outcomes ← run manualTime targets
    return outcome :: outcomes

end SyncOp

/-! ## Decommission -/

/-- The device drops this controller's fabric via RemoveFabric on our own entry. -/
def decommissionOne (nodeId : NodeId) : Action Unit := do
  let (_, ourIndex) ← readOurFabricEntry ext ctx nodeId
  match ourIndex with
  | none => throw (.message "device has no entry for our fabric")
  | some ourIndex =>
    let _status ← request ext ctx nodeId (.removeFabric ourIndex) "RemoveFabric"
    ask (.wire nodeId .complete) >>= orFail (.matter "RemoveFabric completion")

namespace DecommissionOp

/-- One target: remove the fabric from the device, then the device from the registry. -/
def step (nodeId : NodeId) : Action DecommissionOutcome := do
  match ← attempt (decommissionOne ext ctx nodeId) with
  | .ok () =>
    removeDevice ext devicesPath nodeId
    return { nodeId, success := true, error := none }
  | .error error =>
    let text := ext.render ctx.config error
    logError ("Node " ++ toString nodeId ++ ": decommission failed: " ++ text)
    return { nodeId, success := false, error := some text }

/-- As for a sync: the nodes that were asked already are lost with a registry write that fails. -/
def run : List NodeId → Action (List DecommissionOutcome)
  | [] => return []
  | nodeId :: targets => do
    let outcome ← step ext ctx nodeId
    let outcomes ← run targets
    return outcome :: outcomes

end DecommissionOp

/-! ## Inspect -/

/-- The capacity of the DST list of a device with the TimeZone feature. -/
def readDstMax (nodeId : NodeId) (hasTz : Bool) : Action UInt8 := do
  if hasTz then
    let exchange ← connect ext ctx nodeId
    let size ← ask (.wire exchange .dstOffsetListMaxSizeRead)
    return (okOf size).getD 1
  else return 0

/-- What the device says of itself; the first read that fails ends it, but the names and the DST capacity are
best-effort. -/
def inspectOne (nodeId : NodeId) : Action InspectOutcome := do
  let (vendorName, productName) ← readDeviceNames ext ctx nodeId
  let featureMap ← request ext ctx nodeId .featureMapRead
    "read featureMap (device may lack Time Synchronization)"
  let utcTime ← request ext ctx nodeId .utcTimeRead "read utcTime"
  let granularity ← request ext ctx nodeId .granularityRead "read granularity"
  let hasTz := featureMap &&& featureTimeZone ≠ 0
  let dstMax ← readDstMax ext ctx nodeId hasTz
  let (label, index) ← readOurFabricEntry ext ctx nodeId
  return {
    nodeId, vendorName, productName
    timeSync := some {
      featureMap, timeZoneFeature := hasTz
      utcTime := utcTime.map (·.display ext.fromMicrosecond ext.timestampDisplay)
      granularity, dstOffsetListMaxSize := dstMax }
    ourFabricLabel := label, ourFabricIndex := index }

namespace InspectOp

/-- One target; a device that cannot be inspected is an outcome, too. -/
def step (nodeId : NodeId) : Action InspectOutcome := do
  match ← attempt (inspectOne ext ctx nodeId) with
  | .ok outcome => return outcome
  | .error error =>
    let text := ext.render ctx.config error
    logError ("Node " ++ toString nodeId ++ ": inspect failed: " ++ text)
    return { nodeId, error := some text }

/-- One outcome for each target; an inspection writes nothing. -/
def run : List NodeId → Action (List InspectOutcome)
  | [] => return []
  | nodeId :: targets => do
    let outcome ← step ext ctx nodeId
    let outcomes ← run targets
    return outcome :: outcomes

end InspectOp

end Ops

end MatterTimeCtl
