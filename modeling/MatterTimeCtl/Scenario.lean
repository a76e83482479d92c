/-
# MatterTimeCtl.Scenario — a host and devices that do what they are asked.

A `Scenario` leaves open what the counterexamples and witnesses vary: how long it takes to open an
exchange, what comes back of CommissioningComplete, and two properties of the devices.  Everything else
works: file operations succeed, sockets can be bound, devices are found and accept what they are sent, and
report the time by the clock that was set.  The one thing a scenario cannot do is list a directory.
-/
import MatterTimeCtl.World
import MatterTimeCtl.Effect.Script
import MatterTimeCtl.Reference.Externals

namespace MatterTimeCtl

open Files Effect

/-- The environment in which anything lawful goes. -/
abbrev anything : Environment World Call Call.Answer := planned reference fun _ _ => True

/-- What varies in how the devices behave; everything else goes well. -/
structure Scenario where
  /-- How many seconds opening an exchange takes, by the state of the device. -/
  dialSecs : Peer → Nat := fun _ => 0
  /-- What comes back of CommissioningComplete, which the device always processes. -/
  completed : Option (Except MatterError Unit) := some (.ok ())
  featureMap : UInt32 := 0
  dstOffsetListMaxSize : UInt8 := 1

namespace Scenario

/-- The first index that no fabric has. -/
def freshIndex (fabrics : List Fabric) : Except MatterError FabIdx :=
  match Reference.allIndices.find? fun i => fabrics.all fun f => f.fabIdx ≠ i with
  | some i => .ok i
  | none => .error ⟨.noSpace⟩

/-- What the crypto backend computes. -/
def computed : (c : CryptoCall) → Except MatterError c.Reply
  | .rand => .ok ()
  | .rcacGenerate fabricId =>
    .ok (Reference.keyOne, { publicKey := Reference.publicKey Reference.keyOne, fabricId })
  | .generateSecretKey => .ok ⟨Reference.keyOne.toArray⟩
  | .csr _ => .ok ⟨#[]⟩
  | .writeCanon key => .ok key
  | .nocGeneratorCreate _ _ => .ok ()
  | .nocGenerate rcac _ nodeId => .ok { nodeId, fabricId := rcac.fabricId }
  | .fabricsAdd fabrics _ => freshIndex fabrics
  | .nocGeneratorNew _ _ => .ok ()

/-- The utcTime a device reports: what its clock shows, null before it was set. -/
def reported (peer : Peer) (t : Timestamp) : Except MatterError (Option MatterMicros) :=
  match peer.setting with
  | none => .ok none
  | some s =>
    match MatterMicros.tryFrom (s.clock t / 1000) with
    | some v => .ok (some v)
    | none => .error ⟨.other "Invalid"⟩

variable (s : Scenario)

/-- What a device answers. -/
def reply (w : World) (nodeId : NodeId) : (r : Request) → Except MatterError r.Reply
  | .featureMapRead => .ok s.featureMap
  | .utcTimeRead => reported (w.peers nodeId) w.clock
  | .granularityRead => .ok 4
  | .setUtcTime _ => .ok ()
  | .setTimeZone _ => .ok (.ok (.ok true))
  | .dstOffsetListMaxSizeRead => .ok s.dstOffsetListMaxSize
  | .setDstOffset _ => .ok ()
  | .vendorNameRead => .ok (.ok "Acme")
  | .productNameRead => .ok (.ok "Clock")
  | .fabricsRead => .ok (.ok [.ok { label := .ok "mattertimectl", fabricIndex := .ok (some 1) }])
  | .updateFabricLabel _ => .ok (.ok (.ok 0))
  | .removeFabric _ => .ok (.ok (.ok 0))
  | .complete => .ok ()

/-- What is chosen about a call. -/
def choice (w : World) : (c : Call) → c.Choice
  | .file _ => .succeed
  | .dir (.exists _) => ()
  | .dir (.createAll _) => .succeed
  | .dir (.createWithMode _ _) => .succeed
  | .dir (.setPermissions _ _) => .succeed
  | .dir (.readDir _) => .error .other
  | .flock _ => true
  | .unlock _ _ => ()
  | .log _ _ => ()
  | .now => ()
  | .sleep _ => ()
  | .ntpSynchronized => true
  | .bindUdp => .ok ()
  | .interfaces => .ok
    [{ name := "eth0", index := some 2, addr := .v4 #v[192, 168, 1, 2], loopback := false },
      { name := "eth0", index := some 2, addr := .v6 #v[0xfe80, 0, 0, 0, 0, 0, 0, 2], loopback := false }]
  | .bindMdns _ => .ok ()
  | .loadPersist => none
  | .crypto c => computed c
  | .fillBytes n => Vector.replicate n 0
  | .browse _ _ => .ok "[fe80::7]:5540"
  | .timed _ (.initiate _) => ⟨some w.clock, some (.ok ())⟩
  | .timed _ (.commission _ _ _) => ⟨some w.clock, some (.ok ())⟩
  | .timed _ (.completeViaCase _ _ _) => ⟨some w.clock, s.completed⟩
  | .wire nodeId r => ⟨some w.clock, s.reply w nodeId r⟩

/-- When a call returns: at once, unless it waits for something. -/
def returnsAt (w : World) : Call → Timestamp
  | .sleep secs => w.clock.afterSecs secs
  | .timed _ (.initiate nodeId) => w.clock.afterSecs (s.dialSecs (w.peers nodeId))
  | .timed secs (.completeViaCase _ _ _) => w.clock.afterSecs secs
  | _ => w.clock

def move (c : Call) (w : World) : c.Move := ⟨s.returnsAt w c, s.choice w c⟩

theorem clock_le_returnsAt (w : World) (c : Call) : w.clock ≤ s.returnsAt w c := by
  unfold returnsAt
  split <;> first | exact Timestamp.le_afterSecs _ _ | exact le_rfl

theorem lawful_computed (w : World) (later : Timestamp) (c : CryptoCall) :
    Lawful reference w later (.crypto c) (computed c) := by
  cases c with
  | rcacGenerate fabricId => exact ⟨rfl, rfl⟩
  | nocGenerate rcac csr nodeId => exact ⟨rfl, rfl⟩
  | fabricsAdd fabrics seed =>
      show Lawful reference w later (.crypto (.fabricsAdd fabrics seed)) (freshIndex fabrics)
      unfold freshIndex
      split
      · rename_i i hfind
        intro f hf
        have hall := List.find?_some hfind
        simpa using List.all_eq_true.mp hall f hf
      · trivial
  | _ => trivial

theorem lawful_move (w : World) (c : Call) : Lawful reference w (s.returnsAt w c) c (s.choice w c) := by
  have within : ∀ {ρ : Type} (reply : ρ) {later : Timestamp}, w.clock ≤ later →
      Transaction.Within ⟨some w.clock, reply⟩ w.clock later := by
    rintro ρ reply later hle at_ h
    obtain rfl := Option.some.inj h
    exact ⟨le_rfl, hle⟩
  cases c with
  | dir c => cases c <;> trivial
  | crypto c => exact lawful_computed w _ c
  | sleep secs => exact le_rfl
  | timed secs future =>
      cases future with
      | initiate nodeId => exact ⟨within _ (Timestamp.le_afterSecs _ _), nofun, fun _ => nofun⟩
      | commission peer passcode nodeId => exact ⟨within _ le_rfl, nofun, fun _ => nofun⟩
      | completeViaCase peer fabric nodeId =>
          exact ⟨within _ (Timestamp.le_afterSecs _ _), fun _ => le_rfl, fun _ => nofun⟩
  | wire nodeId r => exact ⟨within _ le_rfl, fun _ _ => nofun⟩
  | _ => trivial

/-- The scenario as a script. -/
def script : Script (system reference) where
  move := s.move
  admitted c w := ⟨s.clock_le_returnsAt w c, s.lawful_move w c⟩

/-- The same where every move is planned. -/
def anyPlan : Script anything := s.script.restrict fun _ _ => trivial

@[simp] theorem play_anyPlan {α : Type} (p : Prog α) (w : World) :
    s.anyPlan.play p w = s.script.play p w := Script.play_restrict _ _ p w

/-! ## Where scenarios start -/

/-- A configuration for Chicago. -/
def config : Config where
  storagePath := .ofString "/var/lib/mattertimectl"
  timezone := "America/Chicago"
  timeZone := chicago
  fabricLabel := "mattertimectl"
  label_length := by decide

/-- The code on the label of a device. -/
def onboarding : Onboarding := { shortDiscriminator := 3, passcode := 20202021 }

/-- A host on which nothing was ever stored. -/
def freshHost : World where
  files _ := none
  storageMode := none
  matterDir := false
  log := []
  clock := noon
  sampled := noon
  peers _ := {}
  history := {}

/-- The identity of a controller with one device. -/
def identity : Identity where
  fabricId := 1
  controllerNodeId := 1
  nextDeviceNodeId := 2
  rcacPrivkeyHex := hexEncode Reference.keyOne.toList

/-- The fabric that goes with it. -/
def fabric : Fabric where
  fabIdx := ⟨1, by decide⟩
  seed := {
    secretKey := ⟨Reference.keyOne.toArray⟩
    rcac := { publicKey := Reference.publicKey Reference.keyOne, fabricId := 1 }
    noc := { nodeId := 1, fabricId := 1 }
    ipk := Vector.replicate 16 0
    vendorId := testVendorId
    nodeId := 1 }
  label := "mattertimectl"

/-- What an operation is handed where the controller has one fabric. -/
def ctx : Ctx := { fabrics := [fabric], fabIdx := fabric.fabIdx, identity, config }

end Scenario

end MatterTimeCtl
