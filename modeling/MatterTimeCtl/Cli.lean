/-
# MatterTimeCtl.Cli — the commands that run against a storage directory.

`status` only looks at the files.  Every other command first works out what to do from outside the storage
lock: the targets from the registry, the manual instant from the wall clock, the NTP gate.  Only then does it
run its operation.
-/
import MatterTimeCtl.Controller.Run
import MatterTimeCtl.Output

namespace MatterTimeCtl

open Files Effect

/-! ## Targets -/

section Target

variable (ext : Externals)

/-- Targets for read-only interrogation: an empty registry is a valid, empty answer, an unknown node an
error. -/
def resolveOrEmpty (target : Option NodeId) : Action (List NodeId) := do
  let devices ← loadOrDefault ext devicesPath
  let known := devices.nodeIds
  match target with
  | none => return known
  | some node =>
    if known.contains node then return [node]
    else throw (.message ("node " ++ toString node ++
      " is not commissioned on this controller (known nodes: " ++
      (if known.isEmpty then "none" else ", ".intercalate (known.map toString)) ++ ")"))

/-- Targets for fabric-writing commands: an empty registry is an error. -/
def resolve (target : Option NodeId) : Action (List NodeId) := do
  let targets ← resolveOrEmpty ext target
  if targets.isEmpty then
    throw (.message "no devices are commissioned yet; run \"commission\" to add one")
  return targets

end Target

/-! ## Commands -/

section Commands

variable (ext : Externals) (config : Config)

/-! ### Status -/

/-- The level as `status` echoes it. -/
def Config.LogLevel.display : Config.LogLevel → String
  | .debug => "debug"
  | .info => "info"
  | .warn => "warn"
  | .error => "error"

/-- The format as `status` echoes it. -/
def OutputFormat.display : OutputFormat → String
  | .text => "text"
  | .json => "json"

/-- Whether a device passes `--node`: all do without it, otherwise just the one. -/
def keeps (filter : Option NodeId) (key : String) : Bool :=
  match filter with
  | none => true
  | some node => parseU64 key = some node

/-- The listing of a record; a key that is no decimal node id is skipped. -/
def listingOf (key : String) (device : DeviceRecord) : Option NodeListing :=
  (parseU64 key).map fun nodeId => {
    nodeId, vendorName := device.vendorName, productName := device.productName
    lastSuccessfulConnection := device.lastSuccessfulConnection
    lastSuccessfulSync := device.lastSuccessfulSync
    lastAttemptedSync := device.lastAttemptedSync, lastError := device.lastError }

/-- The devices of the registry that pass the filter. -/
def listNodes (filter : Option NodeId) (devices : Devices) : List NodeListing :=
  (devices.nodes.toList.filter fun entry => keeps filter entry.1).filterMap fun entry =>
    listingOf entry.1 entry.2

/-- Ids are decimal strings in a report. -/
def IdentityStatus.report : IdentityStatus → IdentityReport
  | .notCreated => .notCreated
  | .created fabricId controllerNodeId => .created (toString fabricId) (toString controllerNodeId)
  | .unreadable => .unreadable
  | .inconsistent reason => .inconsistent reason

/-- The configuration echoed back. -/
def configReport : ConfigReport where
  source := config.source
  storagePath := config.storagePath
  timezone := config.timezone
  logLevel := config.logLevel.display
  fabricLabel := config.fabricLabel
  output := config.output.display

/-- Reads and reports; it takes no lock and starts nothing. -/
def runStatus (filter : Option NodeId) : Action Output := do
  let now ← ask .now
  let devices ← loadOrDefault ext devicesPath
  let nodes := listNodes filter devices
  let identity ← identityStatus ext
  let offsetSeconds := config.timeZone.toOffset now
  let storageInitialized ← ask (.dir (.exists .storage))
  let hostNtpSynchronized ← ask .ntpSynchronized
  let nextDstTransition := (nextOffsetTransition config.timeZone now).map fun (at_, before, after) =>
    { at_ := ext.timestampDisplay at_, offsetBeforeSeconds := before, offsetAfterSeconds := after }
  let matterTimeNow ← matterNow
  return .status {
    config := configReport config, storageInitialized, controllerIdentity := identity.report
    hostNtpSynchronized, currentUtcOffsetSeconds := offsetSeconds
    currentUtcOffset := formatUtcOffset offsetSeconds, nextDstTransition
    matterTimeNowMicroseconds := toString matterTimeNow.micros, nodes }

/-! ### The commands that run an operation -/

/-- The requested wall-clock time as a concrete instant: today's date in the configured zone at that
time. -/
def manualInstant (raw : String) : Action MatterMicros := do
  let wall ← orFail (fun e => .message (e.display ext)) (parseWallClock raw)
  let today := config.timeZone.localDay (← ask .now)
  match ext.civilToZoned config.timeZone (wall.on today) with
  | .ok instant => return .fromTimestamp instant
  | .error e =>
    throw (.message ("cannot place " ++ ext.strDebug raw ++ " in " ++ config.timezone ++ ": " ++ e))

/-- The instant that `--time` asks for, when it is given. -/
def manualTimeOf : Option String → Action (Option MatterMicros)
  | some raw => some <$> manualInstant ext config raw
  | none => pure none

/-- Where the gate refuses, nothing is locked and no device is asked. -/
def runSync (target : Option NodeId) (time : Option String) : Action Output := do
  -- `--time` makes the operator the time source.
  let manualTime ← manualTimeOf ext config time
  -- Fail safe: never push time from a clock that is not NTP-disciplined.
  let ntp ← ask .ntpSynchronized
  if !ntp && manualTime.isNone then
    logWarn "Host clock is not NTP-synchronized; refusing to set device time."
    return .sync false none []
  let targets ← resolve ext target
  let nodes ← run ext config (.sync targets manualTime)
  return .sync ntp (manualTime.map (·.display ext.fromMicrosecond ext.timestampDisplay)) nodes

/-- The one device that joined. -/
def runCommission (onboarding : Onboarding) : Action Output := do
  let commissioned ← run ext config (.commission onboarding)
  return .commissioned [commissioned]

/-- What remains is read after the lock was given back. -/
def runDecommission (target : Option NodeId) : Action Output := do
  let targets ← resolve ext target
  let nodes ← run ext config (.decommission targets)
  let devices ← loadOrDefault ext devicesPath
  return .decommission nodes devices.nodes.keys

/-- With no device registered, nothing is started. -/
def runInspect (target : Option NodeId) : Action Output := do
  let targets ← resolveOrEmpty ext target
  if targets.isEmpty then return .inspection []
  let nodes ← run ext config (.inspect targets)
  return .inspection nodes

end Commands

/-- A command that runs against the storage directory, with its options. -/
inductive Command where
  | status (filter : Option NodeId)
  | sync (target : Option NodeId) (time : Option String)
  | commission (onboarding : Onboarding)
  | decommission (target : Option NodeId)
  | inspect (target : Option NodeId)
  deriving DecidableEq

/-- Each command under its own handler. -/
def runCommand (ext : Externals) (config : Config) : Command → Action Output
  | .status filter => runStatus ext config filter
  | .sync target time => runSync ext config target time
  | .commission onboarding => runCommission ext config onboarding
  | .decommission target => runDecommission ext config target
  | .inspect target => runInspect ext config target

end MatterTimeCtl
