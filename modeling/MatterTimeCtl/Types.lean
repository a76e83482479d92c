/-
# MatterTimeCtl.Types — the program's data, and what it takes from other packages.

The records the program keeps on disk (`Devices`, `Identity`), the part of its configuration that the
commands read, the in-memory fabric, and the ways a command fails.  A `Config` can only be built with a
label that configuration validation lets through, so no command has to check it again.

Everything the program calls in other packages and only uses as a value is collected in `Externals`:
the JSON codecs, the byte form of a fabric and how fabrics are loaded back, the label update, and the
texts of foreign errors.  Its law fields are the documented behaviour the program relies on; nothing
else is known of these functions.
-/
import MatterTimeCtl.WallClock
import MatterTimeCtl.Files.FileSystem

namespace MatterTimeCtl

open Files

/-! ## Identifiers and foreign errors -/

/-- The number of a device on the fabric. -/
abbrev NodeId := UInt64

/-- A fabric index, never 0. -/
abbrev FabIdx := { idx : UInt8 // idx ≠ 0 }

/-- The error codes the program tells apart or raises itself. -/
inductive ErrorCode where
  | clusterNotFound
  | notFound
  | noSpace
  | stdIoError
  | other (name : String)
  deriving DecidableEq

/-- An error of the Matter stack. -/
structure MatterError where
  code : ErrorCode
  deriving DecidableEq

/-! ## Local device state -/

/-- Everything known locally about one commissioned device. -/
structure DeviceRecord where
  vendorName : Option String := none
  productName : Option String := none
  lastSuccessfulConnection : Option Timestamp := none
  lastSuccessfulSync : Option Timestamp := none
  lastAttemptedSync : Option Timestamp := none
  lastError : Option String := none
  deriving DecidableEq

/-- The device registry: one record per node, keyed by node ID as a decimal string. -/
structure Devices where
  nodes : Std.ExtTreeMap String DeviceRecord compare := ∅

/-- The decimal string a node is registered under. -/
def nodeKey (nodeId : NodeId) : String := toString nodeId.toNat

/-! ## Controller identity and fabric -/

/-- The identity material persisted next to the fabric, with the RCAC private key hex-encoded. -/
structure Identity where
  fabricId : UInt64
  controllerNodeId : UInt64
  nextDeviceNodeId : UInt64
  rcacPrivkeyHex : String
  deriving DecidableEq

/-- A private key in canonical form. -/
abbrev PrivKey := Vector UInt8 32

/-- A root certificate, as far as it identifies a fabric. -/
structure Rcac where
  publicKey : ByteArray
  fabricId : UInt64
  deriving DecidableEq

/-- An operational certificate: a node on a fabric. -/
structure Noc where
  nodeId : UInt64
  fabricId : UInt64
  deriving DecidableEq

/-- What a fabric is made of, before it has an index and a label. -/
structure FabricSeed where
  secretKey : ByteArray
  rcac : Rcac
  noc : Noc
  ipk : Vector UInt8 16
  vendorId : UInt16
  nodeId : UInt64
  deriving DecidableEq

/-- An installed fabric. -/
structure Fabric where
  fabIdx : FabIdx
  seed : FabricSeed
  label : String
  deriving DecidableEq

/-- What makes two fabrics the same one to a device: the root key and the fabric id under it. -/
def Fabric.root (f : Fabric) : Rcac := f.seed.rcac

/-! ## Configuration -/

/-- A path of the operating system: its characters, `none` for bytes that are no UTF-8. -/
structure OsPath where
  chars : List (Option Char)
  deriving DecidableEq

namespace OsPath

/-- A path that was given as text. -/
def ofString (s : String) : OsPath := ⟨s.toList.map some⟩

/-- The path for display; what is no UTF-8 shows as replacement characters. -/
def display (p : OsPath) : String := String.ofList (p.chars.map (·.getD '\uFFFD'))

/-- `Path::to_str`. -/
def toStr (p : OsPath) : Option String := (p.chars.mapM id).map String.ofList

end OsPath

/-- How much is logged. -/
inductive Config.LogLevel where
  | debug
  | info
  | warn
  | error
  deriving DecidableEq

/-- The default rendering of commands that were not given `--json`. -/
inductive OutputFormat where
  | text
  | json
  deriving DecidableEq

/-- The bytes that a fabric label may have. -/
def fabricLabelMaxLength : Nat := 32

/-- The configuration the commands read.  Validation has passed: the label is at most 32 bytes. -/
structure Config where
  /-- Where the configuration was loaded from. -/
  source : OsPath := .ofString ""
  storagePath : OsPath
  timezone : String
  logLevel : Config.LogLevel := .warn
  output : OutputFormat := .text
  /-- What the time zone name resolves to. -/
  timeZone : TimeZone
  fabricLabel : String
  label_length : fabricLabel.utf8ByteSize ≤ fabricLabelMaxLength

/-! ## Failures -/

/-- The refusals of `ensureFabric`. -/
inductive Refusal where
  /-- identity.json cannot be read and devices are registered. -/
  | identityUnreadable (devices : Nat) (cause : IoError)
  /-- identity.json exists and no fabric was loaded. -/
  | identityWithoutFabric
  /-- Devices are registered and no fabric was loaded. -/
  | registryWithoutFabric (devices : Nat)
  deriving DecidableEq

/-- How a command fails. -/
inductive Failure where
  | message (text : String)
  | io (cause : IoError)
  | matter (what : String) (cause : MatterError)
  | json (cause : String)
  | timedOut (what : String) (secs : Nat)
  | refused (why : Refusal)
  /-- The process panics. -/
  | panicked
  | context (what : String) (cause : Failure)
  deriving DecidableEq

/-! ## Pairing -/

/-- What a pairing code says: which device to look for and the passcode to prove. -/
structure Onboarding where
  shortDiscriminator : UInt8
  passcode : UInt32
  deriving DecidableEq

/-! ## Operations and their outcomes -/

/-- A controller operation, with the targets or the pairing it was given. -/
inductive Op where
  | commission (onboarding : Onboarding)
  /-- With `manualTime`, write this instant instead of the current time. -/
  | sync (targets : List NodeId) (manualTime : Option MatterMicros)
  | decommission (targets : List NodeId)
  | inspect (targets : List NodeId)
  deriving DecidableEq

/-- A device that was commissioned. -/
structure CommissionOutcome where
  nodeId : NodeId
  fabricId : UInt64
  vendorName : Option String
  productName : Option String
  deriving DecidableEq

/-- What became of one node in a sync; a step that was not reached leaves its field as it is here. -/
structure SyncOutcome where
  nodeId : NodeId
  success : Bool := false
  /-- The device has no Time Synchronization cluster: reported, not counted as a failure. -/
  skipped : Bool := false
  error : Option String := none
  clockBefore : Option String := none
  epochShifted : Bool := false
  utcTimeWritten : Option String := none
  timeZoneWritten : Option String := none
  dstEntriesWritten : Nat := 0
  deltaAfterMicros : Option Int := none
  verified : Bool := false
  deriving DecidableEq

namespace SyncOutcome

/-- A node whose sync attempt errored before completing. -/
def failed (nodeId : NodeId) (error : String) : SyncOutcome := { nodeId, error := some error }

/-- A node without a Time Synchronization cluster. -/
def skippedWith (nodeId : NodeId) (reason : String) : SyncOutcome :=
  { nodeId, skipped := true, error := some reason }

end SyncOutcome

/-- What became of one node in a decommission. -/
structure DecommissionOutcome where
  nodeId : NodeId
  success : Bool
  error : Option String
  deriving DecidableEq

/-- What a device says of its Time Synchronization cluster. -/
structure TimeSyncCaps where
  featureMap : UInt32
  timeZoneFeature : Bool
  utcTime : Option String
  granularity : UInt8
  dstOffsetListMaxSize : UInt8
  deriving DecidableEq

/-- What was read of one node, or why nothing was. -/
structure InspectOutcome where
  nodeId : NodeId
  error : Option String := none
  vendorName : Option String := none
  productName : Option String := none
  timeSync : Option TimeSyncCaps := none
  ourFabricLabel : Option String := none
  ourFabricIndex : Option UInt8 := none
  deriving DecidableEq

/-- What an operation returns. -/
abbrev Op.Out : Op → Type
  | .commission _ => CommissionOutcome
  | .sync _ _ => List SyncOutcome
  | .decommission _ => List DecommissionOutcome
  | .inspect _ => List InspectOutcome

/-! ## Other packages -/

/-- A JSON codec for `α`: what is written, followed by a newline, reads back. -/
structure Codec (α : Type) where
  encode : α → String
  decode : String → Except String α
  decode_encode : ∀ a, decode (encode a ++ "\n") = .ok a

/-- The label of the fabric at `fabIdx` is set. -/
def setLabel (fabIdx : FabIdx) (label : String) (f : Fabric) : Fabric :=
  if f.fabIdx = fabIdx then { f with label } else f

/-- The functions of other packages the program uses as values, with what it relies on. -/
structure Externals where
  identityJson : Codec Identity
  devicesJson : Codec Devices
  /-- The key a fabric is persisted under. -/
  fabricKey : FabIdx → UInt16
  fabricKey_injective : Function.Injective fabricKey
  encodeFabric : Fabric → ByteArray
  decodeFabric : ByteArray → Option Fabric
  /-- Blobs are written with a newline at their end, which the decoder does not mind. -/
  decode_encodeFabric : ∀ f, decodeFabric (encodeFabric f ++ "\n".toUTF8) = some f
  /-- Loading the persisted fabrics: those and only those whose blob is there, each once. -/
  loadFabrics : (UInt16 → Option ByteArray) → Except MatterError (List Fabric)
  mem_loadFabrics : ∀ {blobs fabrics}, loadFabrics blobs = .ok fabrics → ∀ f,
    f ∈ fabrics ↔ ∃ bytes, blobs (fabricKey f.fabIdx) = some bytes ∧ decodeFabric bytes = some f
  nodup_loadFabrics : ∀ {blobs fabrics}, loadFabrics blobs = .ok fabrics → fabrics.Nodup
  loadFabrics_ok : ∀ {blobs}, (∀ fabIdx bytes, blobs (fabricKey fabIdx) = some bytes →
    ∃ f, decodeFabric bytes = some f ∧ f.fabIdx = fabIdx) → ∃ fabrics, loadFabrics blobs = .ok fabrics
  /-- The public key of a private key. -/
  publicKey : PrivKey → ByteArray
  updateLabel : List Fabric → FabIdx → String → Except MatterError (List Fabric)
  updateLabel_eq : ∀ {fabrics fabIdx label fabrics'}, updateLabel fabrics fabIdx label = .ok fabrics' →
    fabrics' = fabrics.map (setLabel fabIdx label)
  /-- A fabric that is alone takes any label that fits. -/
  updateLabel_ok : ∀ f {label : String}, label.utf8ByteSize ≤ fabricLabelMaxLength →
    ∃ fabrics, updateLabel [f] f.fabIdx label = .ok fabrics
  /-- An instant at which clocks in the zone show a civil time, whenever there is one. -/
  civilToZoned : TimeZone → Int → Except String Timestamp
  civilToZoned_shows : ∀ {tz : TimeZone} {civil}, (∃ t, tz.Shows t civil) →
    ∃ t, civilToZoned tz civil = .ok t ∧ tz.Shows t civil
  /-- `Timestamp::from_microsecond`. -/
  fromMicrosecond : Int → Option Timestamp
  fromMicrosecond_exact : ∀ {micros t}, fromMicrosecond micros = some t → t.nanos = micros * 1000
  /-- It is range-checked in microseconds. -/
  fromMicrosecond_range : ∀ micros, (fromMicrosecond micros).isSome = true ↔
    minMicros ≤ micros ∧ micros ≤ maxMicros
  matterDebug : MatterError → String
  ioDisplay : IoError → String
  timestampDisplay : Timestamp → String
  /-- Why `Time::new` takes no such hour, minute and second. -/
  timeError : Int → Int → Int → String
  /-- The debug rendering of a string, in quotes, which escapes all control characters. -/
  strDebug : String → String
  strDebug_printable : ∀ s, ∀ c ∈ (strDebug s).toList,
    32 ≤ c.toNat ∧ ¬ (127 ≤ c.toNat ∧ c.toNat < 160)

/-- The text of a wall-clock error. -/
def WallClockError.display (ext : Externals) : WallClockError → String
  | .format input => "cannot parse " ++ ext.strDebug input ++
    " as a time (expected HH:MM or HH:MM:SS, optionally with am/pm)"
  | .number part input => "cannot parse " ++ ext.strDebug part ++ " in " ++ ext.strDebug input ++ " as a number"
  | .hour input what => "hour in " ++ ext.strDebug input ++ " " ++ what
  | .range input h m s => "invalid time " ++ ext.strDebug input ++ ": " ++ ext.timeError h m s

namespace Externals

/-- Within the range, the instant is there. -/
theorem fromMicrosecond_eq_some (ext : Externals) {micros : Int} {t : Timestamp}
    (range : minMicros ≤ micros ∧ micros ≤ maxMicros) (same : t.nanos = micros * 1000) :
    ext.fromMicrosecond micros = some t := by
  obtain ⟨s, hs⟩ := Option.isSome_iff_exists.mp ((ext.fromMicrosecond_range micros).mpr range)
  rw [hs, Timestamp.ext ((ext.fromMicrosecond_exact hs).trans same.symm)]

/-- The alternate rendering of a failure: the whole chain of contexts, outermost first. -/
def render (ext : Externals) (config : Config) : Failure → String
  | .message text => text
  | .io cause => ext.ioDisplay cause
  | .matter what cause => what ++ ": " ++ ext.matterDebug cause
  | .json cause => cause
  | .timedOut what secs => what ++ " timed out after " ++ toString secs ++ "s"
  | .refused (.identityUnreadable devices cause) =>
    "cannot read " ++ config.storagePath.display ++ "/identity.json but the node registry lists " ++
      toString devices ++ " commissioned device(s); refusing to touch the fabric. Restore " ++
      "identity.json from backup. (" ++ ext.ioDisplay cause ++ ")"
  | .refused .identityWithoutFabric =>
    config.storagePath.display ++ "/identity.json exists but no fabric was loaded from " ++
      config.storagePath.display ++ "/matter; refusing to create a new controller identity over an old " ++
      "one. Restore the matter/ KV files from backup, or delete the whole storage directory to " ++
      "deliberately start over."
  | .refused (.registryWithoutFabric devices) =>
    "the node registry lists " ++ toString devices ++ " commissioned device(s) but no fabric was " ++
      "loaded; refusing to create a new controller identity. Restore the storage directory from " ++
      "backup."
  | .panicked => "panicked"
  | .context what cause => what ++ ": " ++ ext.render config cause

end Externals

end MatterTimeCtl
