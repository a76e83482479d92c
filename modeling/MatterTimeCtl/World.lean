/-
# MatterTimeCtl.World — the world the program runs in, and what each call does to it.

A world is the storage directory with its files, the log, the host clock, and the devices on the wire.
The environment decides everything the program does not: which fault strikes a file operation, what the
crypto backend and the peers answer, whether a request whose reply was lost took effect, and how long a
call takes.  `Lawful` is what can be relied on even so: a directory listing is true, a certificate is for
the key and the fabric it was asked for, a reply means that the request was processed, and timers do not
fire early.

`History` is proof-only state.  It records which node ids were assigned, joined and given up, and on which
fabric, so that properties of whole sequences of runs can be said about the world they end in.
-/
import MatterTimeCtl.Cli
import MatterTimeCtl.Effect.Environment

namespace MatterTimeCtl

open Files Effect

/-! ## Time passing -/

/-- `secs` later, or the end of representable time. -/
def Timestamp.afterSecs (t : Timestamp) (secs : Nat) : Timestamp :=
  ⟨min maxNanos (t.nanos + secs * 1000000000), by
    have h := t.min_le
    unfold minNanos maxNanos at *
    omega, min_le_left _ _⟩

theorem Timestamp.le_afterSecs (t : Timestamp) (secs : Nat) : t ≤ t.afterSecs secs := by
  have h := t.le_max
  rw [Timestamp.le_def]
  exact le_min h (by omega)

theorem Timestamp.afterSecs_mono {s t : Timestamp} (h : s ≤ t) (secs : Nat) :
    s.afterSecs secs ≤ t.afterSecs secs := by
  rw [Timestamp.le_def] at h ⊢
  unfold Timestamp.afterSecs
  dsimp only
  omega

/-! ## Devices -/

/-- A SetUTCTime that took effect. -/
structure ClockSetting where
  value : MatterMicros
  /-- When the device applied it. -/
  applied : Timestamp
  /-- When the host last read its own clock before that. -/
  sampled : Timestamp
  deriving DecidableEq

/-- What a device that keeps time shows since its clock was set: nanoseconds since the Matter epoch. -/
def ClockSetting.clock (s : ClockSetting) (t : Timestamp) : Int :=
  (s.value.micros : Int) * 1000 + (t.nanos - s.applied.nanos)

/-- A device, as far as the requests of this program change or observe it. -/
structure Peer where
  setting : Option ClockSetting := none
  /-- When the program last read utcTime, since the clock was set. -/
  readAt : Option Timestamp := none
  zone : List MatterTimeZoneEntry := []
  dst : List MatterDstOffsetEntry := []
  deriving DecidableEq

/-- The device after a request it processed at `at_`, whose reply did or did not arrive. -/
def Peer.process (peer : Peer) (sampled at_ : Timestamp) (answered : Bool) : Request → Peer
  | .setUtcTime value => { peer with setting := some ⟨value, at_, sampled⟩, readAt := none }
  | .utcTimeRead => if answered then { peer with readAt := some at_ } else peer
  | .setTimeZone entries => { peer with zone := entries }
  | .setDstOffset entries => { peer with dst := entries }
  | _ => peer

/-! ## Worlds -/

/-- What was done with the storage directory so far. -/
structure History where
  /-- The node ids devices were joined under, the latest first, each with its fabric. -/
  joined : List (NodeId × Rcac) := []
  /-- A device was joined and identity.json has not been replaced since. -/
  owed : Bool := false
  /-- Devices that had been joined to a fabric when it was discarded. -/
  orphaned : List NodeId := []
  /-- Node ids that were assigned to a device while the registry had a record under them. -/
  reused : List NodeId := []
  /-- Nodes that were reported decommissioned and have not been assigned again. -/
  gone : List NodeId := []

/-- What there is besides the processes: the storage, the log, the clock, the devices, and what was done so far. -/
structure World where
  files : FileMap Path
  /-- The mode of the storage directory, when it exists. -/
  storageMode : Option Nat
  matterDir : Bool
  log : List (LogLevel × String)
  clock : Timestamp
  /-- When the program last read the clock. -/
  sampled : Timestamp
  peers : NodeId → Peer
  history : History

/-- The directory has an entry of this name. -/
def World.HasEntry (w : World) (d : Dir) (name : String) : Prop :=
  (w.files ⟨d, name⟩).isSome ∨ (d = .storage ∧ name = "matter" ∧ w.matterDir = true)

/-! ## Moves -/

/-- A request on the wire: when the peer processed it, if it did, and what came back. -/
structure Transaction (ρ : Type) where
  processed : Option Timestamp
  reply : ρ

/-- A listing is chosen by the environment, and lawful only if it is that of the directory. -/
abbrev DirCall.Choice : DirCall → Type
  | .exists _ => Unit
  | .createAll _ | .createWithMode _ _ | .setPermissions _ _ => Io
  | .readDir _ => Except IoError (List String)

/-- What the environment chooses about a call, besides how long it takes. -/
abbrev Call.Choice : Call → Type
  | .file _ => Io
  | .dir c => c.Choice
  | .flock _ => Bool
  | .unlock _ _ => Unit
  | .log _ _ => Unit
  | .now => Unit
  | .sleep _ => Unit
  | .ntpSynchronized => Bool
  | .bindUdp => Except IoError Unit
  | .interfaces => Except IoError (List Interface)
  | .bindMdns _ => Except IoError Unit
  | .loadPersist => Option MatterError
  | .crypto c => Except MatterError c.Reply
  | .fillBytes n => Vector UInt8 n
  | .browse _ _ => Except MatterError PeerAddr
  | .timed _ _ => Transaction (Option (Except MatterError Unit))
  | .wire _ request => Transaction (Except MatterError request.Reply)

/-- A move: when the call returns, and what was chosen about it. -/
structure Call.Move (c : Call) where
  later : Timestamp
  choice : c.Choice

section Environment

variable (ext : Externals)

/-- The blobs in the key-value directory. -/
def blobsOf (files : FileMap Path) (key : UInt16) : Option ByteArray := files (keyPath key)

/-! ## What can be relied on -/

/-- The peer processed the request while the call lasted. -/
def Transaction.Within {ρ : Type} (tx : Transaction ρ) (sent later : Timestamp) : Prop :=
  ∀ at_, tx.processed = some at_ → sent ≤ at_ ∧ at_ ≤ later

/-- What holds of every move on a call, whatever the environment chooses. -/
def Lawful (w : World) (later : Timestamp) : (c : Call) → c.Choice → Prop
  | .dir (.readDir d), .ok names => ∀ name, name ∈ names ↔ w.HasEntry d name
  | .crypto (.rcacGenerate fabricId), .ok (priv, rcac) =>
    rcac.publicKey = ext.publicKey priv ∧ rcac.fabricId = fabricId
  | .crypto (.nocGenerate rcac _ nodeId), .ok noc =>
    noc.fabricId = rcac.fabricId ∧ noc.nodeId = nodeId
  | .crypto (.fabricsAdd fabrics _), .ok fabIdx => ∀ f ∈ fabrics, f.fabIdx ≠ fabIdx
  | .sleep secs, _ => w.clock.afterSecs secs ≤ later
  | .timed secs _, tx =>
    tx.Within w.clock later ∧ (tx.reply = none → w.clock.afterSecs secs ≤ later) ∧
      (tx.reply = some (.ok ()) → tx.processed ≠ none)
  | .wire _ _, tx => tx.Within w.clock later ∧ (∀ a, tx.reply = .ok a → tx.processed ≠ none)
  | _, _ => True

/-! ## What the program sees -/

/-- A fault of the file system shows as some error. -/
def ioAnswer : Io → Except IoError Unit
  | .succeed => .ok ()
  | .fail _ => .error .other

/-- What a directory call returns: the state decides what exists, the choice what fails. -/
def dirAnswer (w : World) : (c : DirCall) → c.Choice → c.Answer
  | .exists .storage, _ => w.storageMode.isSome
  | .exists .matter, _ => w.matterDir
  | .createAll _, io => ioAnswer io
  | .createWithMode _ _, io => ioAnswer io
  | .setPermissions _ _, io => ioAnswer io
  | .readDir _, entries => entries

/-- What a call returns in a world, from the move on it; the clock shows when the call returned. -/
def callAnswer (w : World) (later : Timestamp) : (c : Call) → c.Choice → c.Answer
  | .file c, io => c.answer w.files io
  | .dir c, choice => dirAnswer w c choice
  | .flock _, granted => granted
  | .now, _ => later
  | .ntpSynchronized, answer => answer
  | .bindUdp, answer => answer
  | .interfaces, answer => answer
  | .bindMdns _, answer => answer
  | .loadPersist, some fault => .error fault
  | .loadPersist, none => ext.loadFabrics (blobsOf w.files)
  | .crypto _, answer => answer
  | .fillBytes _, bytes => bytes
  | .browse _ _, answer => answer
  | .timed _ _, tx => tx.reply
  | .wire _ _, tx => tx.reply
  | .unlock _ _, _ => ()
  | .log _ _, _ => ()
  | .sleep _, _ => ()

/-! ## What becomes of the world -/

/-- Those joined to the fabric that a blob holds. -/
def History.joinedTo (h : History) (blob : Option ByteArray) : List NodeId :=
  match blob.bind ext.decodeFabric with
  | none => []
  | some f => (h.joined.filter fun j => j.2 = f.root).map Prod.fst

/-- The history after a file call that succeeded. -/
def History.afterFile (h : History) (files : FileMap Path) : FileCall Path → History
  | .rename source target =>
    if target = identityPath ∧ (files source).isSome then { h with owed := false } else h
  | .removeFile p => { h with orphaned := h.orphaned ++ h.joinedTo ext (files p) }
  | _ => h

/-- The registry on disk. -/
def World.registry (w : World) : Devices := registryOf ext (readText w.files devicesPath)

/-- A node id is given to a device. -/
def World.assign (w : World) (nodeId : NodeId) : World :=
  { w with history := { w.history with
      reused := if nodeKey nodeId ∈ (w.registry ext).nodes then nodeId :: w.history.reused
        else w.history.reused
      gone := w.history.gone.filter (· ≠ nodeId) } }

/-- A device is a node of a fabric from here on. -/
def World.join (w : World) (nodeId : NodeId) (fabric : Fabric) : World :=
  { w with history := { w.history with
      joined := (nodeId, fabric.root) :: w.history.joined, owed := true } }

/-- The nodes a decommission reports as removed. -/
def reportedGone : (op : Op) → Except Failure op.Out → List NodeId
  | .decommission _, .ok outcomes => (outcomes.filter (·.success)).map (·.nodeId)
  | _, _ => []

/-- A call that fails leaves the directories alone, and so does creating one that is there. -/
def dirEffect (w : World) : (c : DirCall) → c.Choice → World
  | .createAll .storage, .succeed => { w with storageMode := some (w.storageMode.getD 0o777) }
  | .createAll .matter, .succeed => { w with matterDir := true }
  | .createWithMode .storage mode, .succeed => { w with storageMode := some (w.storageMode.getD mode) }
  | .createWithMode .matter _, .succeed => { w with matterDir := true }
  | .setPermissions .storage mode, .succeed => { w with storageMode := some mode }
  | _, _ => w

/-- An operation reports its result. -/
def World.report (w : World) (op : Op) (result : Except Failure op.Out) : World :=
  { w with history := { w.history with gone := reportedGone op result ++ w.history.gone } }

/-- A node id is assigned when commissioning starts; the device joins when it processes CommissioningComplete, whether
or not its reply arrives. -/
def futureEffect (w : World) (processed : Option Timestamp) : Future → World
  | .initiate _ => w
  -- the operational certificate is for this node id
  | .commission _ _ nodeId => w.assign ext nodeId
  | .completeViaCase _ fabric nodeId =>
    match processed with
    | none => w
    | some _ => w.join nodeId fabric

/-- A request changes the device that processed it, and no other. -/
def wireEffect (w : World) (nodeId : NodeId) (r : Request)
    (tx : Transaction (Except MatterError r.Reply)) : World :=
  match tx.processed with
  | none => w
  | some at_ =>
    let peer := (w.peers nodeId).process w.sampled at_ tx.reply.isOk r
    { w with peers := Function.update w.peers nodeId peer }

/-- What a request keeps of every device that processes it, it keeps of each device. -/
theorem peer_wireEffect {w : World} {n nodeId : NodeId} {r : Request}
    {tx : Transaction (Except MatterError r.Reply)} {P : Peer → Prop} (h : P (w.peers nodeId))
    (keeps : ∀ peer at_, P peer → P (peer.process w.sampled at_ tx.reply.isOk r)) :
    P ((wireEffect w n r tx).peers nodeId) := by
  unfold wireEffect
  split
  · exact h
  · by_cases hn : nodeId = n
    · subst hn
      simp only [Function.update_self]
      exact keeps _ _ h
    · simp only [Function.update_of_ne hn]
      exact h

/-- What a call does to the world.  The log is what is handed to the logger, before the level filter that `main` sets.
-/
def callEffect (w : World) (later : Timestamp) : (c : Call) → c.Choice → World
  | .file c, .succeed =>
    { w with files := c.next w.files .succeed, history := w.history.afterFile ext w.files c }
  | .file c, .fail written => { w with files := c.next w.files (.fail written) }
  | .dir c, choice => dirEffect w c choice
  | .log level message, _ => { w with log := w.log ++ [(level, message)] }
  | .now, _ => { w with sampled := later }
  | .unlock op result, _ => w.report op result
  | .timed _ future, tx => futureEffect ext w tx.processed future
  | .wire nodeId r, tx => wireEffect w nodeId r tx
  | _, _ => w

/-- **The environment**: any lawful choice, and time that does not run backwards. -/
def system : Environment World Call Call.Answer where
  Move := Call.Move
  admits c w m := w.clock ≤ m.later ∧ Lawful ext w m.later c m.choice
  answer c w m := callAnswer ext w m.later c m.choice
  next c w m := { callEffect ext w m.later c m.choice with clock := m.later }

/-- There always is a move, if only that the call fails: no program gets stuck. -/
theorem system_live : (system ext).Live := by
  intro c w
  have within {ρ : Type} (reply : ρ) : (⟨none, reply⟩ : Transaction ρ).Within w.clock w.clock := by
    rintro _ ⟨⟩
  cases c with
  | dir c =>
      cases c with
      | readDir d => exact ⟨⟨w.clock, .error .other⟩, le_rfl, trivial⟩
      | «exists» d => exact ⟨⟨w.clock, ()⟩, le_rfl, trivial⟩
      | createAll d | createWithMode d mode | setPermissions d mode =>
          exact ⟨⟨w.clock, .succeed⟩, le_rfl, trivial⟩
  | file c => exact ⟨⟨w.clock, .succeed⟩, le_rfl, trivial⟩
  | flock path | ntpSynchronized => exact ⟨⟨w.clock, false⟩, le_rfl, trivial⟩
  | unlock op result | log level message | now => exact ⟨⟨w.clock, ()⟩, le_rfl, trivial⟩
  | sleep secs => exact ⟨⟨w.clock.afterSecs secs, ()⟩, Timestamp.le_afterSecs _ _, le_rfl⟩
  | bindUdp | interfaces | bindMdns interface => exact ⟨⟨w.clock, .error .other⟩, le_rfl, trivial⟩
  | loadPersist => exact ⟨⟨w.clock, none⟩, le_rfl, trivial⟩
  | crypto c => exact ⟨⟨w.clock, .error ⟨.notFound⟩⟩, le_rfl, by cases c <;> trivial⟩
  | fillBytes n => exact ⟨⟨w.clock, Vector.replicate n 0⟩, le_rfl, trivial⟩
  | browse nodeId secs => exact ⟨⟨w.clock, .error ⟨.notFound⟩⟩, le_rfl, trivial⟩
  | timed secs future => exact ⟨⟨w.clock, none, some (.error ⟨.notFound⟩)⟩, le_rfl, within _, nofun, nofun⟩
  | wire nodeId request => exact ⟨⟨w.clock, none, .error ⟨.notFound⟩⟩, le_rfl, within _, nofun⟩

/-- The environment with only those faults and answers that `plan` lets through. -/
abbrev planned (plan : (c : Call) → c.Move → Prop) : Environment World Call Call.Answer :=
  (system ext).restrict fun c _ m => plan c m

end Environment

/-! ## Faults -/

/-- Nothing goes wrong on this side of the wire: file operations, the crypto backend and the fabric
loader do what they are asked. -/
def Faultless : (c : Call) → c.Choice → Prop
  | .file _, io => io = .succeed
  | .dir (.exists _), _ => True
  | .dir (.createAll _), io => io = .succeed
  | .dir (.createWithMode _ _), io => io = .succeed
  | .dir (.setPermissions _ _), io => io = .succeed
  | .dir (.readDir _), entries => ∃ names, entries = .ok names
  | .crypto _, answer => ∃ a, answer = .ok a
  | .loadPersist, fault => fault = none
  | _, _ => True

/-- A plan without faults. -/
def Smooth (plan : (c : Call) → c.Move → Prop) : Prop := ∀ c m, plan c m → Faultless c m.choice

end MatterTimeCtl
