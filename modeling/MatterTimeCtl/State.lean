/-
# MatterTimeCtl.State — local device state kept next to the Matter fabric storage.

One JSON file, `devices.json`, holds a record per commissioned device.  It is read leniently: a file
that is missing, unreadable or unparseable counts as empty.  It is written through a temporary file in
the same directory, which is renamed over the real one only once its bytes are on disk.
-/
import MatterTimeCtl.System
import MatterTimeCtl.Text.Unsigned

namespace MatterTimeCtl

open Files Effect Text

/-! ## Node ids as keys -/

/-- `str::parse::<u64>`. -/
def parseU64 (s : String) : Option UInt64 := (parseUnsigned (2 ^ 64) s.toList).map UInt64.ofNat

theorem parseU64_nodeKey (nodeId : NodeId) : parseU64 (nodeKey nodeId) = some nodeId := by
  have hlist : (nodeKey nodeId).toList = Nat.toDigits 10 nodeId.toNat := by
    simp [nodeKey]
  rw [parseU64, hlist, parseUnsigned_toDigits nodeId.toNat_lt, Option.map_some, UInt64.ofNat_toNat]

theorem nodeKey_injective : Function.Injective nodeKey := by
  intro a b h
  have ha := parseU64_nodeKey a
  rw [h, parseU64_nodeKey] at ha
  exact (Option.some.inj ha).symm

/-- Keys that are not decimal node ids are skipped. -/
def Devices.nodeIds (devices : Devices) : List NodeId := devices.nodes.keys.filterMap parseU64

theorem getElem?_insert_of_ne {devices : Devices} {key key' : String} (h : key ≠ key')
    (record : DeviceRecord) : (devices.nodes.insert key' record)[key]? = devices.nodes[key]? := by
  rw [Std.ExtTreeMap.getElem?_insert, if_neg]
  rw [Std.LawfulEqCmp.compare_eq_iff_eq]
  exact h.symm

theorem getElem?_erase_of_ne {devices : Devices} {key key' : String} (h : key ≠ key') :
    (devices.nodes.erase key')[key]? = devices.nodes[key]? := by
  rw [Std.ExtTreeMap.getElem?_erase, if_neg]
  rw [Std.LawfulEqCmp.compare_eq_iff_eq]
  exact h.symm

/-! ## Paths -/

/-- The file name without its extension; a leading dot does not start an extension. -/
def fileStem (name : String) : String :=
  match name.toList.reverse.dropWhile (· ≠ '.') with
  | [] | [_] => name
  | _ :: stem => String.ofList stem.reverse

/-- `Path::with_extension`. -/
def withExtension (path : Path) (extension : String) : Path :=
  { path with name := fileStem path.name ++ "." ++ extension }

/-- Where the registry is kept. -/
def devicesPath : Path := ⟨.storage, "devices.json"⟩

/-! ## Reading and writing -/

section Files

variable (ext : Externals)

/-- What a lenient reader makes of the result of reading the registry. -/
def registryOf : Except IoError String → Devices
  | .ok raw =>
    match ext.devicesJson.decode raw with
    | .ok devices => devices
    | .error _ => {}
  | .error _ => {}

/-- Reads the registry leniently: missing or corrupt files yield the default. -/
def loadOrDefault (path : Path) : Action Devices := do
  let raw ← ask (.file (.readToString path))
  return registryOf ext raw

end Files

/-- Writes the bytes and a newline to a new or truncated file, and flushes them to disk. -/
def writePrivate (path : Path) (bytes : ByteArray) : Action Unit := do
  ask (.file (.openTruncate path)) >>= orFail .io
  ask (.file (.writeAll path bytes)) >>= orFail .io
  ask (.file (.writeAll path "\n".toUTF8)) >>= orFail .io
  ask (.file (.syncAll path)) >>= orFail .io

/-- Atomic JSON write: temp file in the same directory, then rename. -/
def store {α : Type} (json : Codec α) (path : Path) (value : α) : Action Unit := do
  ask (.dir (.createAll path.dir)) >>= orFail .io
  let tmp := withExtension path "json.tmp"
  let body := json.encode value
  writePrivate tmp body.toUTF8
  ask (.file (.rename tmp path)) >>= orFail .io

/-! ## The registry -/

section Registry

variable (ext : Externals)

/-- Merges a patch into one device's record and persists the result.  The patch may read the clock. -/
def updateDevice (path : Path) (nodeId : NodeId) (patch : DeviceRecord → Action DeviceRecord) :
    Action Unit := do
  let devices ← loadOrDefault ext path
  let record ← patch (devices.nodes.getD (nodeKey nodeId) {})
  store ext.devicesJson path { nodes := devices.nodes.insert (nodeKey nodeId) record }

/-- Drops one device's record and persists the result. -/
def removeDevice (path : Path) (nodeId : NodeId) : Action Unit := do
  let devices ← loadOrDefault ext path
  store ext.devicesJson path { nodes := devices.nodes.erase (nodeKey nodeId) }

end Registry

end MatterTimeCtl
