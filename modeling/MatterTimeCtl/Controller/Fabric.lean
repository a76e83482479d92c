/-
# MatterTimeCtl.Controller.Fabric — the persistent controller fabric and its identity file.

The fabric persists as a blob in the key-value directory, the identity (with the root key) as
`identity.json` next to it.  `ensureFabric` brings the two back, or creates them on a first run: it
returns the pair it finds, discards a fabric that an interrupted first run left behind, refuses where
something is missing that a device could depend on, and only then bootstraps.

The in-memory state of the Matter stack is the list of its fabrics; a function that changes it returns
the list.
-/
import MatterTimeCtl.State

namespace MatterTimeCtl

open Files Effect

/-! ## Hexadecimal -/

/-- `{:02x}` of a byte. -/
def hexByte (b : UInt8) : List Char :=
  [Nat.digitChar (b.toNat / 16), Nat.digitChar (b.toNat % 16)]

/-- The bytes in lowercase hexadecimal. -/
def hexEncode (bytes : List UInt8) : String := String.ofList (bytes.flatMap hexByte)

/-- The value of an ASCII hexadecimal digit. -/
def fromHexDigit (b : UInt8) : Option UInt8 :=
  if 48 ≤ b ∧ b ≤ 57 then some (b - 48)
  else if 97 ≤ b ∧ b ≤ 102 then some (b - 87)
  else if 65 ≤ b ∧ b ≤ 70 then some (b - 55)
  else none

/-- `u8::from_str_radix` in base 16 on two bytes, which takes a leading plus sign. -/
def fromHexPair (hi lo : UInt8) : Option UInt8 :=
  if hi = 43 then fromHexDigit lo
  else do return (← fromHexDigit hi) * 16 + (← fromHexDigit lo)

/-- A byte inside a UTF-8 character. -/
def isContinuation (b : UInt8) : Bool := 128 ≤ b && b < 192

/-- The pairs of `hexDecode`, each a string slice: one that ends inside a character panics. -/
def hexDecodePairs : List UInt8 → Except Failure (List UInt8)
  | hi :: lo :: rest =>
    if (rest.head?.map isContinuation).getD false then .error .panicked
    else
      match fromHexPair hi lo with
      | none => .error (.context "bad hex digit" (.message "invalid digit found in string"))
      | some b => (hexDecodePairs rest).map (b :: ·)
  | _ => .ok []

/-- The length that is checked is that of the bytes, not of the characters. -/
def hexDecode (hex : String) : Except Failure (List UInt8) :=
  if hex.utf8ByteSize % 2 ≠ 0 then .error (.message "odd-length hex")
  else hexDecodePairs hex.toUTF8.data.toList

/-! ### What was encoded is decoded -/

/-- The UTF-8 bytes of characters. -/
def utf8 (cs : List Char) : List UInt8 := cs.flatMap String.utf8EncodeChar

theorem toUTF8_toList (s : String) : s.toUTF8.data.toList = utf8 s.toList := by
  conv_lhs => rw [← String.ofList_toList (s := s)]
  rw [String.toUTF8_eq_toByteArray, String.toByteArray_ofList, List.utf8Encode,
    List.toList_data_toByteArray, utf8]

/-- The UTF-8 bytes of an encoding, two for each byte. -/
def hexBytes (bytes : List UInt8) : List UInt8 := (bytes.flatMap hexByte).flatMap String.utf8EncodeChar

theorem data_hexEncode (bytes : List UInt8) : (hexEncode bytes).toUTF8.data.toList = hexBytes bytes := by
  rw [toUTF8_toList, hexEncode, String.toList_ofList, utf8, hexBytes]

/-- The ASCII byte of a digit. -/
def digitByte (n : Nat) : UInt8 := UInt8.ofNat (if n < 10 then 48 + n else 87 + n)

theorem utf8EncodeChar_digitChar {n : Nat} (h : n < 16) :
    String.utf8EncodeChar n.digitChar = [digitByte n] := by
  have hall : ∀ n : Fin 16, String.utf8EncodeChar n.val.digitChar = [digitByte n.val] := by decide
  exact hall ⟨n, h⟩

/-- One byte: two digits, neither of them inside a character. -/
theorem hexByte_digits (b : UInt8) : ∃ hi lo, (hexByte b).flatMap String.utf8EncodeChar = [hi, lo] ∧
    fromHexPair hi lo = some b ∧ isContinuation hi = false := by
  have hall : ∀ n : Fin 256,
      fromHexPair (digitByte (n.val / 16)) (digitByte (n.val % 16)) = some (UInt8.ofNat n.val) ∧
        isContinuation (digitByte (n.val / 16)) = false := by decide +kernel
  have hb := b.toNat_lt
  have h := hall ⟨b.toNat, hb⟩
  rw [UInt8.ofNat_toNat] at h
  refine ⟨_, _, ?_, h⟩
  rw [hexByte, List.flatMap_cons, List.flatMap_cons, List.flatMap_nil,
    utf8EncodeChar_digitChar (by omega), utf8EncodeChar_digitChar (by omega)]
  rfl

theorem hexBytes_cons (b : UInt8) (bytes : List UInt8) : ∃ hi lo,
    hexBytes (b :: bytes) = hi :: lo :: hexBytes bytes ∧ fromHexPair hi lo = some b ∧
      isContinuation hi = false := by
  obtain ⟨hi, lo, hdigits, hpair, hchar⟩ := hexByte_digits b
  refine ⟨hi, lo, ?_, hpair, hchar⟩
  rw [hexBytes, List.flatMap_cons, List.flatMap_append, hdigits]
  rfl

theorem length_hexBytes (bytes : List UInt8) : (hexBytes bytes).length = 2 * bytes.length := by
  induction bytes with
  | nil => rfl
  | cons b bytes ih =>
      obtain ⟨hi, lo, hcons, -⟩ := hexBytes_cons b bytes
      rw [hcons, List.length_cons, List.length_cons, ih, List.length_cons]
      omega

theorem hexDecodePairs_hexBytes (bytes : List UInt8) : hexDecodePairs (hexBytes bytes) = .ok bytes := by
  induction bytes with
  | nil => rfl
  | cons b bytes ih =>
      obtain ⟨hi, lo, hcons, hpair, -⟩ := hexBytes_cons b bytes
      -- the next pair begins with a digit, so the slice ends between characters
      have hnext : ((hexBytes bytes).head?.map isContinuation).getD false = false := by
        cases bytes with
        | nil => rfl
        | cons b' bytes =>
            obtain ⟨hi', lo', hcons', -, hchar'⟩ := hexBytes_cons b' bytes
            rw [hcons', List.head?_cons, Option.map_some, hchar', Option.getD_some]
      rw [hcons, hexDecodePairs, hnext, hpair, ih]
      rfl

theorem hexDecode_hexEncode (bytes : List UInt8) : hexDecode (hexEncode bytes) = .ok bytes := by
  have hsize : (hexEncode bytes).utf8ByteSize = 2 * bytes.length := by
    rw [← length_hexBytes, ← data_hexEncode, Array.length_toList]
    rfl
  rw [hexDecode, hsize, Nat.mul_mod_right, if_neg (by decide), data_hexEncode, hexDecodePairs_hexBytes]

/-! ## Identity -/

/-- Where the controller's identity is kept. -/
def identityPath : Path := ⟨.storage, "identity.json"⟩

/-- `u64::from_be_bytes`. -/
def fromBeBytes (bytes : Vector UInt8 8) : UInt64 :=
  bytes.foldl (fun n b => n * 256 + b.toUInt64) 0

namespace Identity

/-- A non-zero random 64-bit id. -/
def randomId : Action UInt64 := do
  let bytes ← ask (.fillBytes 8)
  return fromBeBytes bytes ||| 1

/-- A new identity, whose root key is filled in once the certificates are made. -/
def generate : Action Identity := do
  ask (.crypto .rand) >>= orFail (.matter "generate controller identity")
  let fabricId ← randomId
  let controllerNodeId ← randomId
  return { fabricId, controllerNodeId, nextDeviceNodeId := 1, rcacPrivkeyHex := "" }

/-- The root key of the identity, or what is wrong with it. -/
def rcacPrivkey (identity : Identity) : Except Failure PrivKey :=
  match hexDecode identity.rcacPrivkeyHex with
  | .error .panicked => .error .panicked
  | .error cause => .error (.context "identity.json rcac key" cause)
  | .ok bytes =>
    if h : bytes.length = 32 then .ok ⟨bytes.toArray, by simpa using h⟩
    else .error (.message ("identity.json rcac key has unexpected length " ++
      toString bytes.length))

/-- A key that was written is read back. -/
theorem rcacPrivkey_hexEncode {identity : Identity} {priv : PrivKey}
    (h : identity.rcacPrivkeyHex = hexEncode priv.toList) : identity.rcacPrivkey = .ok priv := by
  rw [rcacPrivkey, h, hexDecode_hexEncode]
  simp only [Vector.length_toList, dif_pos]
  rfl

end Identity

/-! ### What status reports of it -/

/-- What `status` says about the controller identity, from the files alone. -/
inductive IdentityStatus where
  /-- Neither identity.json nor a fabric blob: the first commission creates it. -/
  | notCreated
  | created (fabricId controllerNodeId : UInt64)
  /-- identity.json exists but cannot be read or parsed. -/
  | unreadable
  /-- One half of the pair is missing. -/
  | inconsistent (reason : String)
  deriving DecidableEq

/-- A committed blob, not a leftover `k_XXXX.tmp` from a crash. -/
def isCommittedBlob (name : String) : Bool :=
  "k_".toList.isPrefixOf name.toList && !".tmp".toList.isSuffixOf name.toList

/-- Whether the key-value directory has a committed blob; one that cannot be listed has none. -/
def fabricExists : Action Bool := do
  match ← ask (.dir (.readDir .matter)) with
  | .ok entries => return entries.any isCommittedBlob
  | .error _ => return false

/-- What the presence of identity.json and of a fabric blob says; where both are there, the identity has
to be read. -/
def classifyIdentity (ext : Externals) : Bool → Bool → Action IdentityStatus
  | false, false => return .notCreated
  | true, false => return .inconsistent "identity.json exists but the fabric storage is missing"
  | false, true => return .inconsistent "fabric storage exists but identity.json is missing"
  | true, true => do
    match ← ask (.file (.readToString identityPath)) with
    | .error _ => return .unreadable
    | .ok raw =>
      match ext.identityJson.decode raw with
      | .ok identity => return .created identity.fabricId identity.controllerNodeId
      | .error _ => return .unreadable

/-- Inspects the identity pair on disk. -/
def identityStatus (ext : Externals) : Action IdentityStatus := do
  let identityExists ← ask (.file (.pathExists identityPath))
  let blobExists ← fabricExists
  classifyIdentity ext identityExists blobExists

/-! ## The key-value store -/

/-- The file a key is kept in, `k_` and four hexadecimal digits. -/
def keyPath (key : UInt16) : Path :=
  ⟨.matter, "k_" ++ hexEncode [(key / 256).toUInt8, key.toUInt8]⟩

/-- Loads the value of a key into a buffer of `bufLen` bytes, which it must fit in as it is on disk. -/
def kvLoad (key : UInt16) (bufLen : Nat) : Action (Except MatterError (Option ByteArray)) := do
  match ← ask (.file (.read (keyPath key))) with
  | .ok data => if data.size ≤ bufLen then return .ok (some data) else return .error ⟨.noSpace⟩
  | .error .notFound => return .ok none
  | .error .other => return .error ⟨.stdIoError⟩

/-- Any failure to write is an I/O error of the store. -/
def kvStore (key : UInt16) (data : ByteArray) : Action (Except MatterError Unit) := do
  let path := keyPath key
  let write : Action Unit := do
    ask (.dir (.createAll .matter)) >>= orFail .io
    let tmp := withExtension path "tmp"
    writePrivate tmp data
    ask (.file (.rename tmp path)) >>= orFail .io
  match ← attempt write with
  | .ok () => return .ok ()
  | .error _ => return .error ⟨.stdIoError⟩

/-- A key that is not there is removed already. -/
def kvRemove (key : UInt16) : Action (Except MatterError Unit) := do
  match ← ask (.file (.removeFile (keyPath key))) with
  | .ok () => return .ok ()
  | .error .notFound => return .ok ()
  | .error .other => return .error ⟨.stdIoError⟩

section Fabric

variable (ext : Externals)

/-- Writes the fabric of this index to its blob. -/
def persistFabric (fabrics : List Fabric) (fabIdx : FabIdx) : Action Unit :=
  match fabrics.find? (·.fabIdx = fabIdx) with
  | none => throw (.matter "persist fabric" ⟨.notFound⟩)
  | some fabric =>
    kvStore (ext.fabricKey fabIdx) (ext.encodeFabric fabric) >>= orFail (.matter "persist fabric")

/-- Removes the blob of this index. -/
def removePersistedFabric (fabIdx : FabIdx) : Action Unit :=
  kvRemove (ext.fabricKey fabIdx) >>= orFail (.matter "remove persisted fabric blob")

/-- Brings the fabric's label in line with the configuration, and the blob with it. -/
def reconcileLabel (fabrics : List Fabric) (fabIdx : FabIdx) (label : String) :
    Action (List Fabric) :=
  let current := ((fabrics.find? (·.fabIdx = fabIdx)).map Fabric.label).getD ""
  if current = label then return fabrics
  else
    match ext.updateLabel fabrics fabIdx label with
    | .error e => throw (.matter "update local fabric label" e)
    | .ok fabrics => do
      persistFabric ext fabrics fabIdx
      return fabrics

/-! ## Bootstrap -/

/-- CSA test vendor id. -/
def testVendorId : UInt16 := 0xFFF1

/-- The label update of a new fabric, whose failure is ignored. -/
def tryUpdateLabel (fabrics : List Fabric) (fabIdx : FabIdx) (label : String) : List Fabric :=
  match ext.updateLabel fabrics fabIdx label with
  | .ok labelled => labelled
  | .error _ => fabrics

/-- Mint the root certificate (its private key kept in the identity), our own operational certificate
and the fabric key, and install the fabric in memory. -/
def mintFabric (fabrics : List Fabric) : Action (Identity × FabIdx × FabricSeed) := do
  let identity ← Identity.generate
  let (rcacPriv, rcac) ← ask (.crypto (.rcacGenerate identity.fabricId)) >>=
    orFail (.matter "generate RCAC")
  let identity := { identity with rcacPrivkeyHex := hexEncode rcacPriv.toList }
  -- Our own operational identity: keypair, CSR, NOC signed by the RCAC.
  let controllerKey ← ask (.crypto .generateSecretKey) >>= orFail (.matter "generate controller key")
  let csr ← ask (.crypto (.csr controllerKey)) >>= orFail (.matter "controller CSR")
  let controllerKeyCanon ← ask (.crypto (.writeCanon controllerKey)) >>=
    orFail (.matter "serialize controller key")
  ask (.crypto (.nocGeneratorCreate rcacPriv rcac)) >>= orFail (.matter "NOC generator")
  let controllerNoc ← ask (.crypto (.nocGenerate rcac csr identity.controllerNodeId)) >>=
    orFail (.matter "controller NOC")
  ask (.crypto .rand) >>= orFail (.matter "seed fabric IPK")
  let ipk ← ask (.fillBytes 16)
  let seed : FabricSeed :=
    { secretKey := controllerKeyCanon, rcac, noc := controllerNoc, ipk, vendorId := testVendorId,
      nodeId := identity.controllerNodeId }
  let fabIdx ← ask (.crypto (.fabricsAdd fabrics seed)) >>=
    orFail (.matter "install controller fabric")
  return (identity, fabIdx, seed)

/-- First-run fabric creation: mint and install the fabric, persist it, and write the identity file
last. -/
def bootstrapFabric (config : Config) (fabrics : List Fabric) :
    Action (List Fabric × FabIdx × Identity) := do
  let (identity, fabIdx, seed) ← mintFabric fabrics
  let fabrics := tryUpdateLabel ext (fabrics ++ [{ fabIdx, seed, label := "" }]) fabIdx
    config.fabricLabel
  persistFabric ext fabrics fabIdx
  -- Identity file after the fabric: a crash in between leaves a fabric without identity.json.
  match ← attempt (store ext.identityJson identityPath identity) with
  | .ok () => return (fabrics, fabIdx, identity)
  | .error cause => throw (.context "write identity.json" cause)

/-- The last guards of `ensureFabric`, once no fabric is loaded: refuse over the remains of an old
identity, else bootstrap. -/
def refuseOrBootstrap (config : Config) (fabrics : List Fabric) (registry : Devices) :
    Action (List Fabric × FabIdx × Identity) := do
  if ← ask (.file (.pathExists identityPath)) then throw (.refused .identityWithoutFabric)
  else if !registry.nodes.isEmpty then throw (.refused (.registryWithoutFabric registry.nodes.size))
  else bootstrapFabric ext config fabrics

/-- Loads or bootstraps the controller fabric. -/
def ensureFabric (config : Config) (fabrics : List Fabric) :
    Action (List Fabric × FabIdx × Identity) := do
  let existing := (fabrics.map Fabric.fabIdx).head?
  let registry ← loadOrDefault ext devicesPath
  match existing with
  | some fabIdx =>
    match ← ask (.file (.readToString identityPath)) with
    | .ok raw =>
      match ext.identityJson.decode raw with
      | .error cause => throw (.context "parse identity.json" (.json cause))
      | .ok identity =>
        let fabrics ← reconcileLabel ext fabrics fabIdx config.fabricLabel
        return (fabrics, fabIdx, identity)
    | .error cause =>
      if registry.nodes.isEmpty then
        logWarn ("Discarding fabric left by an interrupted first run (no identity.json, " ++
          "no commissioned devices); creating a fresh controller identity")
        let fabrics := fabrics.filter (·.fabIdx ≠ fabIdx)
        removePersistedFabric ext fabIdx
        refuseOrBootstrap ext config fabrics registry
      else throw (.refused (.identityUnreadable registry.nodes.size cause))
  | none => refuseOrBootstrap ext config fabrics registry

end Fabric

end MatterTimeCtl
