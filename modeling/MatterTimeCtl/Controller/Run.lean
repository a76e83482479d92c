/-
# MatterTimeCtl.Controller.Run — the one-shot harness around an operation.

A run claims its storage directory, takes the storage lock, loads the fabrics back, ensures the
controller fabric, sets up the sockets and runs its operation.  The directory is claimed before the lock
is taken and the lock file is created in it, so a run that fails in between has still left a trace.
-/
import MatterTimeCtl.Controller.Ops

namespace MatterTimeCtl

open Files Effect

/-! ## The storage directory -/

/-- The file the storage lock is taken on. -/
def lockPath : Path := ⟨.storage, ".lock"⟩

/-- The first of `is_our_storage_dir`'s markers that exists decides. -/
def anyMarkerExists : Action Bool := do
  if ← ask (.file (.pathExists identityPath)) then return true
  if ← ask (.dir (.exists .matter)) then return true
  if ← ask (.file (.pathExists lockPath)) then return true
  ask (.file (.pathExists devicesPath))

/-- Whether the directory is empty or already holds this tool's artifacts. -/
def isOurStorageDir : Action Bool := do
  if ← anyMarkerExists then return true
  match ← ask (.dir (.readDir .storage)) with
  | .ok entries => return entries.isEmpty
  | .error _ => return false

/-- The permissions of a storage directory, `rwx` for its owner only. -/
def privateMode : Nat := 0o700

/-- The warning about a storage directory that is not ours. -/
def foreignDirWarning (config : Config) : String :=
  "storagePath " ++ config.storagePath.display ++ " already exists and does not look like a mattertimectl " ++
    "storage directory; leaving its permissions unchanged (it should be mode 0700, owned by the " ++
    "service user)"

/-- Creates the storage directory if absent, and tightens an existing one only when it is ours. -/
def prepareStorageDir (config : Config) : Action Unit := do
  if !(← ask (.dir (.exists .storage))) then
    ask (.dir (.createWithMode .storage privateMode)) >>=
      orFail fun e => .context "create storage directory" (.io e)
  else if ← isOurStorageDir then
    ask (.dir (.setPermissions .storage privateMode)) >>=
      orFail fun e => .context "chmod storage directory" (.io e)
  else logWarn (foreignDirWarning config)

/-- Creates the lock file and takes the lock, for one operation. -/
def lockStorage (config : Config) (op : Op) : Action Unit := do
  ask (.file (.openTruncate lockPath)) >>= orFail fun e => .context "create storage lock file" (.io e)
  if !(← ask (.flock op)) then
    throw (.message ("another mattertimectl instance is already running against " ++
      config.storagePath.display))

/-! ## Network setup -/

/-- `Ipv6Addr::is_unicast_link_local`. -/
def isLinkLocal (segments : Vector UInt16 8) : Bool := segments[0] &&& 0xffc0 = 0xfe80

/-- The first non-loopback IPv6 address that passes the filter and whose interface also has an IPv4
address. -/
def interfaceCandidate (all : List Interface) (v6Filter : Vector UInt16 8 → Bool) :
    Option (Vector UInt8 4 × Vector UInt16 8 × UInt32) :=
  let v6s := (all.filter fun ia => !ia.loopback).filterMap fun ia =>
    match ia.addr with
    | .v6 segments => if v6Filter segments then some (ia.name, segments, ia.index.getD 0) else none
    | .v4 _ => none
  v6s.findSome? fun (name, ipv6, index) =>
    (all.filter fun ia => ia.name = name).findSome? fun ia =>
      match ia.addr with
      | .v4 octets => some (octets, ipv6, index)
      | .v6 _ => none

/-- Picks the LAN interface for mDNS, preferring a link-local IPv6 address. -/
def pickInterface : Action (Vector UInt8 4 × Vector UInt16 8 × UInt32) := do
  let all ← ask .interfaces >>= orFail fun e => .context "enumerate network interfaces" (.io e)
  match (interfaceCandidate all isLinkLocal).or (interfaceCandidate all fun _ => true) with
  | some found => return found
  | none => throw (.message "no network interface with IPv4 + IPv6 found for mDNS")

/-! ## The harness -/

section Run

variable (ext : Externals) (config : Config)

/-- Each operation in the context that the harness has set up. -/
def runOp (ctx : Ctx) : (op : Op) → Action op.Out
  | .commission onboarding => CommissionOp.run ext ctx onboarding
  | .sync targets manualTime => SyncOp.run ext ctx manualTime targets
  | .decommission targets => DecommissionOp.run ext ctx targets
  | .inspect targets => InspectOp.run ext ctx targets

/-- What a run does while it holds the lock. -/
def runLocked (op : Op) : Action op.Out := do
  let fabrics ← ask .loadPersist >>= orFail (.matter "load persisted Matter state")
  let (fabrics, fabIdx, identity) ← ensureFabric ext config fabrics
  ask .bindUdp >>= orFail fun e => .context "bind Matter UDP socket" (.io e)
  let (_, _, interface) ← pickInterface
  ask (.bindMdns interface) >>= orFail fun e => .context "bind mDNS socket" (.io e)
  runOp ext { fabrics, fabIdx, identity, config } op

/-- Claims the storage, takes the lock, and runs the operation under it. -/
def run (op : Op) : Action op.Out := do
  prepareStorageDir config
  lockStorage config op
  let result ← attempt (runLocked ext config op)
  ask (.unlock op result)
  orFail id result

end Run

end MatterTimeCtl
