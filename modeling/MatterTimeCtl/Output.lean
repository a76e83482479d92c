/-
# MatterTimeCtl.Output — the typed output layer.

Every command returns an `Output`; it is printed once, by the process, from that value.  The exit code is
a function of the output, the JSON text and the human text are two renderings of the same data.
-/
import MatterTimeCtl.Types
import MatterTimeCtl.Text.Json

namespace MatterTimeCtl

open Text

/-! ## What is reported -/

/-- What was parsed from the configuration file, echoed back. -/
structure ConfigReport where
  source : OsPath
  storagePath : OsPath
  timezone : String
  logLevel : String
  fabricLabel : String
  output : String
  deriving DecidableEq

/-- What `status` says of the controller's identity, with its ids as decimal strings. -/
inductive IdentityReport where
  | notCreated
  | created (fabricId controllerNodeId : String)
  | unreadable
  | inconsistent (reason : String)
  deriving DecidableEq

/-- The next change of the zone's offset. -/
structure DstTransition where
  at_ : String
  offsetBeforeSeconds : Int
  offsetAfterSeconds : Int
  deriving DecidableEq

/-- A registered device in `status`: its number and what devices.json has on it. -/
structure NodeListing where
  nodeId : NodeId
  vendorName : Option String
  productName : Option String
  lastSuccessfulConnection : Option Timestamp
  lastSuccessfulSync : Option Timestamp
  lastAttemptedSync : Option Timestamp
  lastError : Option String
  deriving DecidableEq

/-- All that `status` reports: the configuration, the storage, the identity, the host's time and the devices. -/
structure StatusReport where
  config : ConfigReport
  storageInitialized : Bool
  controllerIdentity : IdentityReport
  hostNtpSynchronized : Bool
  currentUtcOffsetSeconds : Int
  currentUtcOffset : String
  nextDstTransition : Option DstTransition
  matterTimeNowMicroseconds : String
  /-- One entry per commissioned device. -/
  nodes : List NodeListing
  deriving DecidableEq

/-- Everything a command can say. -/
inductive Output where
  | status (report : StatusReport)
  | inspection (nodes : List InspectOutcome)
  | sync (hostNtpSynchronized : Bool) (manualTime : Option String) (nodes : List SyncOutcome)
  | commissioned (nodes : List CommissionOutcome)
  | decommission (nodes : List DecommissionOutcome) (remainingNodes : List String)
  | error (error : String)
  deriving DecidableEq

/-- 0 = success, including empty-but-valid results; 1 = any failure.  Skipped devices are no failures. -/
def Output.exitCode : Output → Nat
  | .status _ | .commissioned _ => 0
  | .inspection nodes => if nodes.all (·.error.isNone) then 0 else 1
  | .sync hostNtpSynchronized manualTime nodes =>
    -- with `--time` the operator is the time source
    if (hostNtpSynchronized || manualTime.isSome) && nodes.all (fun n => n.success || n.skipped) then 0
    else 1
  | .decommission nodes _ => if nodes.all (·.success) then 0 else 1
  | .error _ => 1

/-! ## JSON -/

section Json

/-- A 64-bit identifier is a decimal string. -/
def id64 (id : UInt64) : Json := .string (toString id)

/-- An absent value is `null`. -/
def optional {α : Type} (f : α → Json) : Option α → Json
  | some a => f a
  | none => .null

/-- A path is a string, or cannot be serialized. -/
def pathJson (p : OsPath) : Except String Json :=
  match p.toStr with
  | some s => .ok (.string s)
  | none => .error "path contains invalid UTF-8 characters"

/-- Its two paths can keep a report from being serialized. -/
def ConfigReport.json (c : ConfigReport) : Except String Json := do
  let source ← pathJson c.source
  let storagePath ← pathJson c.storagePath
  return .object [("source", source), ("storagePath", storagePath), ("timezone", .string c.timezone),
    ("logLevel", .string c.logLevel), ("fabricLabel", .string c.fabricLabel),
    ("output", .string c.output)]

/-- Tagged by `state`, with the fields of the variant next to the tag. -/
def IdentityReport.json : IdentityReport → Json
  | .notCreated => .object [("state", .string "notCreated")]
  | .created fabricId controllerNodeId => .object [("state", .string "created"),
    ("fabricId", .string fabricId), ("controllerNodeId", .string controllerNodeId)]
  | .unreadable => .object [("state", .string "unreadable")]
  | .inconsistent reason => .object [("state", .string "inconsistent"), ("reason", .string reason)]

/-- The instant is the text that was rendered for it. -/
def DstTransition.json (d : DstTransition) : Json :=
  .object [("at", .string d.at_), ("offsetBeforeSeconds", .number d.offsetBeforeSeconds),
    ("offsetAfterSeconds", .number d.offsetAfterSeconds)]

variable (ext : Externals)

/-- A listing, with an instant that is not known as `null`. -/
def NodeListing.json (n : NodeListing) : Json :=
  let instant := optional fun t => .string (ext.timestampDisplay t)
  .object [("nodeId", id64 n.nodeId), ("vendorName", optional .string n.vendorName),
    ("productName", optional .string n.productName),
    ("lastSuccessfulConnection", instant n.lastSuccessfulConnection),
    ("lastSuccessfulSync", instant n.lastSuccessfulSync),
    ("lastAttemptedSync", instant n.lastAttemptedSync), ("lastError", optional .string n.lastError)]

/-- The report, with the registered devices in one array. -/
def StatusReport.json (r : StatusReport) : Except String Json := do
  let config ← r.config.json
  return .object [("config", config), ("storageInitialized", .bool r.storageInitialized),
    ("controllerIdentity", r.controllerIdentity.json),
    ("hostNtpSynchronized", .bool r.hostNtpSynchronized),
    ("currentUtcOffsetSeconds", .number r.currentUtcOffsetSeconds),
    ("currentUtcOffset", .string r.currentUtcOffset),
    ("nextDstTransition", optional DstTransition.json r.nextDstTransition),
    ("matterTimeNowMicroseconds", .string r.matterTimeNowMicroseconds),
    ("nodes", .array (r.nodes.map (NodeListing.json ext)))]

def TimeSyncCaps.json (c : TimeSyncCaps) : Json :=
  .object [("featureMap", .number c.featureMap.toNat), ("timeZoneFeature", .bool c.timeZoneFeature),
    ("utcTime", optional .string c.utcTime), ("granularity", .number c.granularity.toNat),
    ("dstOffsetListMaxSize", .number c.dstOffsetListMaxSize.toNat)]

/-- Ids and counts of the device's own are numbers; only a 64-bit id is a string. -/
def InspectOutcome.json (o : InspectOutcome) : Json :=
  .object [("nodeId", id64 o.nodeId), ("error", optional .string o.error),
    ("vendorName", optional .string o.vendorName), ("productName", optional .string o.productName),
    ("timeSync", optional TimeSyncCaps.json o.timeSync),
    ("ourFabricLabel", optional .string o.ourFabricLabel),
    ("ourFabricIndex", optional (fun i => .number i.toNat) o.ourFabricIndex)]

/-- All the fields are there, those of a step that was not reached as `null`. -/
def SyncOutcome.json (o : SyncOutcome) : Json :=
  .object [("nodeId", id64 o.nodeId), ("success", .bool o.success), ("skipped", .bool o.skipped),
    ("error", optional .string o.error), ("clockBefore", optional .string o.clockBefore),
    ("epochShifted", .bool o.epochShifted), ("utcTimeWritten", optional .string o.utcTimeWritten),
    ("timeZoneWritten", optional .string o.timeZoneWritten),
    ("dstEntriesWritten", .number o.dstEntriesWritten),
    ("deltaAfterMicros", optional .number o.deltaAfterMicros), ("verified", .bool o.verified)]

def CommissionOutcome.json (o : CommissionOutcome) : Json :=
  .object [("nodeId", id64 o.nodeId), ("fabricId", id64 o.fabricId),
    ("vendorName", optional .string o.vendorName), ("productName", optional .string o.productName)]

def DecommissionOutcome.json (o : DecommissionOutcome) : Json :=
  .object [("nodeId", id64 o.nodeId), ("success", .bool o.success), ("error", optional .string o.error)]

namespace Output

/-- The object an output serializes as. -/
def json : Output → Except String Json
  | .status report => report.json ext
  | .inspection nodes => .ok (.object [("nodes", .array (nodes.map InspectOutcome.json))])
  | .sync hostNtpSynchronized manualTime nodes => .ok (.object
    [("hostNtpSynchronized", .bool hostNtpSynchronized), ("manualTime", optional .string manualTime),
      ("nodes", .array (nodes.map SyncOutcome.json))])
  | .commissioned nodes => .ok (.object [("nodes", .array (nodes.map CommissionOutcome.json))])
  | .decommission nodes remainingNodes => .ok (.object
    [("nodes", .array (nodes.map DecommissionOutcome.json)),
      ("remainingNodes", .array (remainingNodes.map .string))])
  | .error text => .ok (.object [("error", .string text)])

/-- The fallback of the printer. -/
def serializeError (cause : String) : Json :=
  .object [("error", .string ("serialize output: " ++ cause))]

/-- The one JSON printer. -/
def printJson (output : Output) : List Piece :=
  match output.json ext with
  | .ok body => body.pretty 0 ++ [.line 0]
  | .error cause => [.text (serializeError cause).compact, .line 0]

end Output

end Json

/-! ## For people -/

section Human

variable (ext : Externals)

/-- An instant of the registry, which a device may not have had yet. -/
def displayInstant : Option Timestamp → String
  | some t => ext.timestampDisplay t
  | none => "never"

/-- The device's vendor and product names joined for display, when either is known. -/
def deviceName (vendor product : Option String) : Option String :=
  let joined := " ".intercalate ([vendor, product].filterMap id)
  if joined.isEmpty then none else some joined

/-- The line of `status` on the identity. -/
def renderIdentity : IdentityReport → String
  | .notCreated => "Controller identity:  not created yet (\"commission\" will create it)"
  | .created fabricId controllerNodeId => "Controller identity:  created (fabric id " ++ fabricId ++
    ", controller node id " ++ controllerNodeId ++ ")"
  | .unreadable => "Controller identity:  present but unreadable (run as the service user?)"
  | .inconsistent reason => "Controller identity:  INCONSISTENT: " ++ reason

/-- The lines of `status` on a registered device. -/
def renderListing (n : NodeListing) : List String :=
  ["Node " ++ toString n.nodeId ++ ": " ++
      (deviceName n.vendorName n.productName).getD "(no cached device info)",
    "  Last connection:      " ++ displayInstant ext n.lastSuccessfulConnection,
    "  Last successful sync: " ++ displayInstant ext n.lastSuccessfulSync,
    "  Last attempted sync:  " ++ displayInstant ext n.lastAttemptedSync,
    "  Most recent error:    " ++ n.lastError.getD "none"]

/-- The report of `status`, one line a fact and then the devices. -/
def renderStatus (r : StatusReport) : List String :=
  ["Configuration:        loaded from " ++ r.config.source.display,
    "  storagePath:        " ++ r.config.storagePath.display,
    "  timezone:           " ++ r.config.timezone,
    "  logLevel:           " ++ r.config.logLevel,
    "  fabricLabel:        " ++ r.config.fabricLabel,
    "  output:             " ++ r.config.output,
    "Controller storage:   " ++
      (if r.storageInitialized then "present at " ++ r.config.storagePath.display
        else "NOT INITIALIZED"),
    renderIdentity r.controllerIdentity,
    "Commissioned nodes:   " ++
      (if r.nodes.isEmpty then "none recorded"
        else ", ".intercalate (r.nodes.map fun n => toString n.nodeId)),
    "Host NTP synced:      " ++
      (if r.hostNtpSynchronized then "yes" else "no (or not determinable on this host)"),
    "Current UTC offset:   " ++ r.currentUtcOffset,
    match r.nextDstTransition with
    | some d => "Next DST transition:  " ++ d.at_ ++ " (" ++ formatUtcOffset d.offsetBeforeSeconds ++
      " -> " ++ formatUtcOffset d.offsetAfterSeconds ++ ")"
    | none => "Next DST transition:  none (fixed-offset zone)",
    "Matter time now:      " ++ r.matterTimeNowMicroseconds ++ " us since 2000-01-01T00:00:00Z"] ++
    r.nodes.flatMap (renderListing ext)

/-- `{:#x}`. -/
def hexLiteral (n : Nat) : String := "0x" ++ String.ofList (Nat.toDigits 16 n)

/-- What a device says of its Time Synchronization cluster. -/
def renderCaps (c : TimeSyncCaps) : List String :=
  ["  Time Synchronization cluster (endpoint 0):",
    "    features:             " ++ hexLiteral c.featureMap.toNat ++
      (if c.timeZoneFeature then " (timeZone)" else ""),
    "    utcTime:              " ++ c.utcTime.getD "unset",
    "    granularity:          " ++ toString c.granularity,
    "    dstOffsetListMaxSize: " ++ toString c.dstOffsetListMaxSize]

/-- A device that was inspected, or could not be; its label is printed as `{:?}` prints it. -/
def renderInspected (o : InspectOutcome) : List String :=
  ["Node " ++ toString o.nodeId] ++
    match o.error with
    | some error => ["  Error: " ++ error, ""]
    | none =>
      ["  Vendor:   " ++ o.vendorName.getD "(unknown)",
        "  Product:  " ++ o.productName.getD "(unknown)"] ++
      (o.timeSync.map renderCaps).getD [] ++
      ["  Our fabric entry: label " ++ ext.strDebug (o.ourFabricLabel.getD "(none)") ++
          ", device fabric index " ++ (o.ourFabricIndex.map toString).getD "?",
        ""]

/-- The devices, or that there are none. -/
def renderInspection (nodes : List InspectOutcome) : List String :=
  if nodes.isEmpty then ["No devices are commissioned yet; run \"commission\" to add one."]
  else nodes.flatMap (renderInspected ext)

/-- The line on how a sync ended: `skipped` tells a reason from an error. -/
def renderResult (o : SyncOutcome) : String :=
  match o.error, o.skipped with
  | none, _ => "  Result:       OK"
  | some reason, true => "  Result:       SKIPPED (" ++ reason ++ ")"
  | some error, false => "  Result:       FAILED (" ++ error ++ ")"

/-- The steps of a sync that were taken, and its result. -/
def renderSynced (o : SyncOutcome) : List String :=
  ["Node " ++ toString o.nodeId ++ ":"] ++
    (o.clockBefore.map fun before => "  Assessment:   " ++ before).toList ++
    (o.utcTimeWritten.map fun written => "  Time written: " ++ written).toList ++
    (o.timeZoneWritten.map fun zone => "  Time zone:    " ++ zone).toList ++
    (if o.dstEntriesWritten > 0 then ["  DST offsets:  " ++ toString o.dstEntriesWritten ++ " entries"]
      else []) ++
    (o.deltaAfterMicros.map fun delta => "  Verification: device clock within " ++
      compactDuration delta.natAbs ++ " of host after sync").toList ++
    [renderResult o]

/-- Nothing at all where the NTP gate refused; that is on stderr. -/
def renderSync (hostNtpSynchronized : Bool) (manualTime : Option String) (nodes : List SyncOutcome) :
    List String :=
  if !hostNtpSynchronized && manualTime.isNone then []
  else
    (manualTime.map fun manual =>
      "Manual time set: " ++ manual ++ " (host NTP state not enforced)").toList ++
    nodes.flatMap renderSynced

/-- The summary of a commissioning, with what is to be done next. -/
def renderCommissioned (o : CommissionOutcome) : List String :=
  ["Commissioning summary",
    "  Node ID:        " ++ toString o.nodeId,
    "  Fabric ID:      " ++ toString o.fabricId,
    "  Device:         " ++ (deviceName o.vendorName o.productName).getD "",
    "",
    "The device remains paired with its primary ecosystem; this controller",
    "was added as an additional Matter administrator. Run \"sync\" to",
    "synchronize its clock now."]

/-- One line for each device that was to be removed. -/
def renderDecommissioned (o : DecommissionOutcome) : String :=
  if o.success then
    "Device " ++ toString o.nodeId ++
      " removed this controller's fabric; its primary ecosystem is untouched."
  else
    "Device " ++ toString o.nodeId ++ " could NOT be decommissioned: " ++ o.error.getD "unknown error"

/-- The outcomes, and how many devices there still are. -/
def renderDecommission (nodes : List DecommissionOutcome) (remaining : List String) : List String :=
  nodes.map renderDecommissioned ++
    [if remaining.isEmpty then
      "No devices remain commissioned. The local controller identity remains in the " ++
        "storage directory; deleting it is now safe."
    else
      toString remaining.length ++ " device(s) remain commissioned: " ++ ", ".intercalate remaining]

namespace Output

/-- The lines printed for people; failures are on stderr already. -/
def humanLines : Output → List String
  | .status report => renderStatus ext report
  | .inspection nodes => renderInspection ext nodes
  | .sync hostNtpSynchronized manualTime nodes => renderSync hostNtpSynchronized manualTime nodes
  | .commissioned nodes => nodes.flatMap renderCommissioned
  | .decommission nodes remainingNodes => renderDecommission nodes remainingNodes
  | .error _ => []

/-- The human rendering: every line ends in a line break of the renderer's. -/
def renderHuman (output : Output) : List Piece :=
  (output.humanLines ext).flatMap fun l => [.text l, .line 0]

end Output

end Human

end MatterTimeCtl
