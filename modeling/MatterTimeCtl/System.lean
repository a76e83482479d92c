/-
# MatterTimeCtl.System — what the program can call, and programs over it.

The whole interface of the program to the rest of the world is one alphabet: the two directories and
the files in them, the storage lock, the clock and the timer, the log, the crypto backend, and the
requests on the wire.  A request that the code runs under `with_timeout` is a `timed` call, answered by
`none` when the timer fired first; what a peer, the network or the crypto backend answers is left to
the environment.

A transport or mDNS pump that exits early ends the run where it stands, so it needs no call of its own:
it is a run that is stopped.
-/
import MatterTimeCtl.Types
import MatterTimeCtl.Effect.Reach
import MatterTimeCtl.Effect.Trace
import MatterTimeCtl.Effect.Obey

namespace MatterTimeCtl

open Files Effect

/-! ## Directories and paths -/

/-- The storage directory and the key-value directory in it. -/
inductive Dir where
  | storage
  | matter
  deriving DecidableEq

/-- A file in one of the two directories. -/
structure Path where
  dir : Dir
  name : String
  deriving DecidableEq

/-- What the program does with a directory. -/
inductive DirCall where
  | exists (d : Dir)
  /-- Create the directory and its parents; an existing one is fine. -/
  | createAll (d : Dir)
  | createWithMode (d : Dir) (mode : Nat)
  | setPermissions (d : Dir) (mode : Nat)
  /-- The names of the directory's entries. -/
  | readDir (d : Dir)

/-- Only `exists` cannot fail. -/
abbrev DirCall.Answer : DirCall → Type
  | .exists _ => Bool
  | .createAll _ | .createWithMode _ _ | .setPermissions _ _ => Except IoError Unit
  | .readDir _ => Except IoError (List String)

/-! ## The crypto backend -/

/-- What the crypto backend is asked for while the fabric is set up or used. -/
inductive CryptoCall where
  | rand
  | rcacGenerate (fabricId : UInt64)
  | generateSecretKey
  | csr (key : ByteArray)
  | writeCanon (key : ByteArray)
  | nocGeneratorCreate (priv : PrivKey) (rcac : Rcac)
  | nocGenerate (rcac : Rcac) (csr : ByteArray) (nodeId : UInt64)
  /-- Install a fabric next to the given ones; the answer is its index. -/
  | fabricsAdd (fabrics : List Fabric) (seed : FabricSeed)
  | nocGeneratorNew (priv : PrivKey) (fabIdx : FabIdx)

/-- What it returns where it does not fail; keys and certificates are its own bytes. -/
abbrev CryptoCall.Reply : CryptoCall → Type
  | .rand => Unit
  | .rcacGenerate _ => PrivKey × Rcac
  | .generateSecretKey => ByteArray
  | .csr _ => ByteArray
  | .writeCanon _ => ByteArray
  | .nocGeneratorCreate _ _ => Unit
  | .nocGenerate _ _ _ => Noc
  | .fabricsAdd _ _ => FabIdx
  | .nocGeneratorNew _ _ => Unit

/-! ## The wire -/

/-- A transport address of a peer. -/
abbrev PeerAddr := String

/-- An entry of a device's fabric table, each field as it parses. -/
structure FabricEntry where
  label : Except MatterError String
  fabricIndex : Except MatterError (Option UInt8)

/-- One transaction on an exchange with a node. -/
inductive Request where
  | featureMapRead
  | utcTimeRead
  | granularityRead
  | setUtcTime (utcTime : MatterMicros)
  | setTimeZone (entries : List MatterTimeZoneEntry)
  | dstOffsetListMaxSizeRead
  | setDstOffset (entries : List MatterDstOffsetEntry)
  | vendorNameRead
  | productNameRead
  | fabricsRead
  | updateFabricLabel (label : String)
  | removeFabric (fabricIndex : UInt8)
  /-- Acknowledge the response to the previous invoke. -/
  | complete

/-- What a transaction that got through returns; an inner `Except` is what the program parses. -/
abbrev Request.Reply : Request → Type
  | .featureMapRead => UInt32
  | .utcTimeRead => Option MatterMicros
  | .granularityRead => UInt8
  | .setUtcTime _ => Unit
  | .setTimeZone _ => Except MatterError (Except MatterError Bool)
  | .dstOffsetListMaxSizeRead => UInt8
  | .setDstOffset _ => Unit
  | .vendorNameRead | .productNameRead => Except MatterError String
  | .fabricsRead => Except MatterError (List (Except MatterError FabricEntry))
  | .updateFabricLabel _ | .removeFabric _ => Except MatterError (Except MatterError UInt8)
  | .complete => Unit

/-- The operations that run against a timer. -/
inductive Future where
  /-- Open an exchange with a node: mDNS resolve and CASE handshake. -/
  | initiate (nodeId : NodeId)
  /-- PASE and the commissioning invokes, up to the operational certificate for `nodeId`. -/
  | commission (peer : PeerAddr) (passcode : UInt32) (nodeId : NodeId)
  /-- CASE and CommissioningComplete, by which the device joins the fabric as `nodeId`. -/
  | completeViaCase (peer : PeerAddr) (fabric : Fabric) (nodeId : NodeId)

/-! ## Network interfaces -/

/-- An address of a network interface. -/
inductive IfAddr where
  | v4 (octets : Vector UInt8 4)
  | v6 (segments : Vector UInt16 8)
  deriving DecidableEq

/-- An address entry of the host's interface list, with the interface it belongs to. -/
structure Interface where
  name : String
  index : Option UInt32
  addr : IfAddr
  loopback : Bool
  deriving DecidableEq

/-! ## The alphabet -/

/-- The two levels at which the code under consideration logs. -/
inductive LogLevel where
  | error
  | warn
  deriving DecidableEq

/-- Everything the program can ask of the rest of the world. -/
inductive Call where
  | file (c : FileCall Path)
  | dir (c : DirCall)
  /-- `flock(LOCK_EX | LOCK_NB)` on the open lock file; `false` when another process holds it.  The
  call names the operation the lock is taken for. -/
  | flock (op : Op)
  /-- The lock is dropped when the operation has returned, with what it returned. -/
  | unlock (op : Op) (result : Except Failure op.Out)
  | log (level : LogLevel) (message : String)
  | now
  | sleep (secs : Nat)
  | ntpSynchronized
  | bindUdp
  | interfaces
  | bindMdns (interface : UInt32)
  | loadPersist
  | crypto (c : CryptoCall)
  /-- Draw `n` random bytes from a generator that `rand` has set up. -/
  | fillBytes (n : Nat)
  | browse (shortDiscriminator : UInt8) (timeoutMs : Nat)
  | timed (secs : Nat) (future : Future)
  | wire (nodeId : NodeId) (request : Request)

/-- What each call returns; an `Except` is a `Result` of the source, and a `none` of a timed call its timer. -/
abbrev Call.Answer : Call → Type
  | .file c => c.Answer
  | .dir c => c.Answer
  | .flock _ => Bool
  | .unlock _ _ => Unit
  | .log _ _ => Unit
  | .now => Timestamp
  | .sleep _ => Unit
  | .ntpSynchronized => Bool
  | .bindUdp => Except IoError Unit
  | .interfaces => Except IoError (List Interface)
  | .bindMdns _ => Except IoError Unit
  | .loadPersist => Except MatterError (List Fabric)
  | .crypto c => Except MatterError c.Reply
  | .fillBytes n => Vector UInt8 n
  | .browse _ _ => Except MatterError PeerAddr
  | .timed _ _ => Option (Except MatterError Unit)
  | .wire _ request => Except MatterError request.Reply

/-! ## Programs -/

/-- A program that does not fail, and one that does. -/
abbrev Prog (α : Type) := Program Call Call.Answer α

/-- A part of the program that returns a value or a failure. -/
abbrev Action (α : Type) := ExceptT Failure (Program Call Call.Answer) α

/-- Make a call in a program that can fail. -/
def ask (c : Call) : Action c.Answer := liftM (perform c : Prog c.Answer)

/-- Fail with the failure that `f` makes of an error. -/
def orFail {ε α : Type} (f : ε → Failure) : Except ε α → Action α
  | .ok a => pure a
  | .error e => throw (f e)

/-- Run a fallible part and hand its result on, whatever it is. -/
def attempt {α : Type} (x : Action α) : Action (Except Failure α) := liftM (x.run : Prog _)

/-- `log::warn!`. -/
def logWarn (message : String) : Action Unit := ask (.log .warn message)

/-- `log::error!`. -/
def logError (message : String) : Action Unit := ask (.log .error message)

-- the type of the answer is no help in finding the lemma
@[simp] theorem run_ask (c : Call) :
    ExceptT.run (α := no_index c.Answer) (ask c) = .call c fun a => .done (.ok a) := rfl

@[simp] theorem run_orFail_ok {ε α : Type} (f : ε → Failure) (a : α) :
    (orFail f (.ok a : Except ε α)).run = .done (.ok a) := rfl

@[simp] theorem run_orFail_error {ε α : Type} (f : ε → Failure) (e : ε) :
    (orFail f (.error e : Except ε α)).run = .done (.error (f e)) := rfl

@[simp] theorem run_attempt {α : Type} (x : Action α) :
    (attempt x).run = x.run >>= fun r => .done (.ok r) := rfl

theorem eq_ok_of_mapError {ε α : Type} {f : ε → Failure} {r : Except ε α} {a : α}
    (h : r.mapError f = .ok a) : r = .ok a := by
  cases r with
  | ok b =>
      cases h
      rfl
  | error e => cases h

theorem uses_ask {P : Call → Prop} {c : Call} (h : P c) : (ask c).run.Uses P := by
  rw [run_ask, Program.uses_call]
  exact ⟨h, fun _ => Program.uses_done P _⟩

theorem uses_orFail {P : Call → Prop} {ε α : Type} (f : ε → Failure) (r : Except ε α) :
    (orFail f r).run.Uses P := by
  cases r <;> exact Program.uses_done P _

theorem run_attempt_bind {α β : Type} (x : Action α) (f : Except Failure α → Action β) :
    (attempt x >>= f).run = x.run >>= fun r => (f r).run := by
  rw [Effect.run_bind, run_attempt, Program.bind_assoc]
  rfl

theorem uses_attempt {P : Call → Prop} {α : Type} {x : Action α} (h : x.run.Uses P) :
    (attempt x).run.Uses P := by
  rw [run_attempt]
  exact h.bind fun _ => Program.uses_done P _

/-! ## Parts that never fail -/

/-- Whatever its calls are answered, the part returns a value. -/
def Succeeds {α : Type} (x : Action α) : Prop := x.run.Returns fun r => ∃ a, r = .ok a

theorem Succeeds.pure {α : Type} (a : α) : Succeeds (Pure.pure a) := Program.returns_done.mpr ⟨a, rfl⟩

theorem Succeeds.ask (c : Call) : Succeeds (MatterTimeCtl.ask c) :=
  Program.returns_call.mpr fun a => Program.returns_done.mpr ⟨a, rfl⟩

/-- What follows a part that never fails decides. -/
theorem Succeeds.returns_bind {α β : Type} {x : Action α} {f : α → Action β}
    {R : Except Failure β → Prop} (hx : Succeeds x) (hf : ∀ a, (f a).run.Returns R) :
    (x >>= f).run.Returns R := by
  refine returns_run_bind (hx.mono ?_) hf
  rintro r ⟨a, rfl⟩ e he
  cases he

theorem Succeeds.bind {α β : Type} {x : Action α} {f : α → Action β} (hx : Succeeds x)
    (hf : ∀ a, Succeeds (f a)) : Succeeds (x >>= f) := hx.returns_bind hf

theorem Succeeds.attempt {α : Type} (x : Action α) : Succeeds (MatterTimeCtl.attempt x) :=
  (Program.returns_trivial x.run).bind fun r _ => Program.returns_done.mpr ⟨r, rfl⟩

/-! ## How a part fails -/

/-- Whatever its calls are answered, the part fails only with failures that satisfy `P`. -/
def FailsOnly {α : Type} (P : Failure → Prop) (x : Action α) : Prop :=
  x.run.Returns fun r => ∀ e, r = .error e → P e

section FailsOnly

variable {α β : Type} {P Q : Failure → Prop}

theorem FailsOnly.mono {x : Action α} (h : FailsOnly P x) (hPQ : ∀ e, P e → Q e) : FailsOnly Q x :=
  Program.Returns.mono (fun _ hr e he => hPQ e (hr e he)) h

theorem FailsOnly.bind {x : Action α} {f : α → Action β} (hx : FailsOnly P x)
    (hf : ∀ a, FailsOnly P (f a)) : FailsOnly P (x >>= f) := by
  refine returns_run_bind (Program.Returns.mono ?_ hx) hf
  rintro r hr e he e' he'
  cases he'
  exact hr e he

theorem failsOnly_pure (a : α) : FailsOnly P (pure a : Action α) :=
  Program.returns_done.mpr fun _ => error_ne_ok ∘ Eq.symm

theorem failsOnly_throw {e : Failure} (h : P e) : FailsOnly P (throw e : Action α) := by
  refine Program.returns_done.mpr fun e' he => ?_
  cases he
  exact h

theorem failsOnly_ask (c : Call) : FailsOnly P (ask c) :=
  Program.returns_call.mpr fun _ => Program.returns_done.mpr fun _ => error_ne_ok ∘ Eq.symm

theorem failsOnly_orFail {ε : Type} {f : ε → Failure} (h : ∀ e, P (f e)) (r : Except ε α) :
    FailsOnly P (orFail f r) := by
  cases r with
  | ok a => exact failsOnly_pure a
  | error e => exact failsOnly_throw (h e)

theorem failsOnly_attempt (x : Action α) : FailsOnly P (attempt x) :=
  (Program.returns_trivial x.run).bind fun _ _ => Program.returns_done.mpr fun _ => error_ne_ok ∘ Eq.symm

/-- What is done with the result of a part, failures of it included. -/
theorem FailsOnly.attempt_bind {x : Action α} {f : Except Failure α → Action β} (hx : FailsOnly P x)
    (hf : ∀ r, (∀ e, r = .error e → P e) → FailsOnly Q (f r)) : FailsOnly Q (attempt x >>= f) := by
  unfold FailsOnly
  rw [run_attempt_bind]
  exact Program.Returns.bind hx hf

theorem FailsOnly.map {x : Action α} (hx : FailsOnly P x) (f : α → β) : FailsOnly P (f <$> x) := by
  rw [← bind_pure_comp]
  exact hx.bind fun a => failsOnly_pure (f a)

theorem Succeeds.failsOnly {x : Action α} (h : Succeeds x) : FailsOnly P x := by
  refine Program.Returns.mono ?_ h
  rintro r ⟨a, rfl⟩ e he
  cases he

end FailsOnly

/-! ## What a part returns -/

/-- Whatever its calls are answered, the part returns only values that satisfy `P`. -/
def Delivers {α : Type} (P : α → Prop) (x : Action α) : Prop :=
  x.run.Returns fun r => ∀ a, r = .ok a → P a

section Delivers

variable {α β : Type} {P : α → Prop} {Q : β → Prop}

theorem delivers_pure {a : α} (h : P a) : Delivers P (pure a : Action α) := by
  refine Program.returns_done.mpr fun b hb => ?_
  cases hb
  exact h

theorem delivers_throw (e : Failure) : Delivers P (throw e : Action α) :=
  Program.returns_done.mpr fun _ => error_ne_ok

theorem delivers_any (x : Action α) : Delivers (fun _ => True) x :=
  (Program.returns_trivial x.run).mono fun _ _ _ _ => trivial

theorem Delivers.bind {x : Action α} {f : α → Action β} (hx : Delivers P x)
    (hf : ∀ a, P a → Delivers Q (f a)) : Delivers Q (x >>= f) := by
  unfold Delivers
  rw [Effect.run_bind]
  refine Program.Returns.bind hx fun r hr => ?_
  cases r with
  | ok a => exact hf a (hr a rfl)
  | error e => exact Program.returns_done.mpr fun _ => error_ne_ok

/-- A part whose value does not matter. -/
theorem delivers_bind {x : Action α} {f : α → Action β} (hf : ∀ a, Delivers Q (f a)) : Delivers Q (x >>= f) :=
  (delivers_any x).bind fun a _ => hf a

theorem delivers_attempt_bind {R : Except Failure α → Prop} {x : Action α} {f : Except Failure α → Action β}
    (hx : x.run.Returns R) (hf : ∀ r, R r → Delivers Q (f r)) : Delivers Q (attempt x >>= f) := by
  unfold Delivers
  rw [run_attempt_bind]
  exact hx.bind hf

end Delivers

/-! ## Rules for the parts of a program -/

section Rules

variable {W : Type} {E : Environment W Call Call.Answer} {I : W → Prop} {w : W}

/-- A call in a program that can fail. -/
theorem Effect.Safe.ask_bind {β : Type} {c : Call} {f : c.Answer → Action β}
    {Q : Except Failure β → W → Prop} (here : I w)
    (next : ∀ m, E.admits c w m → Safe E I (f (E.answer c w m)).run Q (E.next c w m)) :
    Safe E I (ask c >>= f).run Q w := by
  rw [Effect.run_bind, run_ask, Program.call_bind, safe_call]
  exact ⟨here, next⟩

theorem Effect.Safe.ask {c : Call} {Q : Except Failure c.Answer → W → Prop} (here : I w)
    (next : ∀ m, E.admits c w m → I (E.next c w m) ∧ Q (.ok (E.answer c w m)) (E.next c w m)) :
    Safe E I (MatterTimeCtl.ask c).run Q w := by
  rw [run_ask, safe_call]
  exact ⟨here, fun m hm => safe_done.mpr (next m hm)⟩

theorem safe_orFail {ε α : Type} {f : ε → Failure} {r : Except ε α}
    {Q : Except Failure α → W → Prop} :
    Safe E I (orFail f r).run Q w ↔ I w ∧ Q (r.mapError f) w := by
  cases r <;> exact safe_done

/-- A part whose result is handed on, whatever it is. -/
theorem Effect.Safe.attempt_bind {α β : Type} {J : W → Prop} {x : Action α}
    {f : Except Failure α → Action β} {R : Except Failure α → W → Prop}
    {Q : Except Failure β → W → Prop} (hx : Safe E J x.run R w) (hJ : ∀ w', J w' → I w')
    (next : ∀ r w', J w' → R r w' → Safe E I (f r).run Q w') :
    Safe E I (attempt x >>= f).run Q w := by
  rw [run_attempt_bind, safe_bind]
  exact hx.mono hJ fun r w' hw hr => next r w' hw hr

theorem traces_orFail {ε α : Type} {f : ε → Failure} {r : Except ε α}
    {Q : Except Failure α → List (Event E) → W → Prop} :
    Traces E (orFail f r).run Q w ↔ Q (r.mapError f) [] w := by
  cases r <;> exact traces_done

/-- A part whose result is handed on, with the moves it made. -/
theorem Effect.Traces.attempt_bind {α β : Type} {x : Action α} {f : Except Failure α → Action β}
    {R : Except Failure α → List (Event E) → W → Prop}
    {Q : Except Failure β → List (Event E) → W → Prop} (hx : Traces E x.run R w)
    (next : ∀ r tr w', R r tr w' →
      Traces E (f r).run (fun b tr' w'' => Q b (tr ++ tr') w'') w') :
    Traces E (attempt x >>= f).run Q w := by
  rw [run_attempt_bind, traces_bind]
  exact hx.mono fun r tr w' hr => next r tr w' hr

/-- A run that has made the call. -/
theorem Effect.Exec.of_ask_bind {β : Type} {c : Call} {f : c.Answer → Action β} {m : E.Move c}
    {tr : List (Event E)} {q : Prog (Except Failure β)} {w' : W}
    (h : Exec E (MatterTimeCtl.ask c >>= f).run w (⟨c, m⟩ :: tr) q w') :
    E.admits c w m ∧ Exec E (f (E.answer c w m)).run (E.next c w m) tr q w' := by
  rw [Effect.run_bind, run_ask, Program.call_bind] at h
  cases h with
  | call admitted rest => exact ⟨admitted, rest⟩

/-- A call whose moves obey, and what follows it. -/
theorem Effect.Obeys.ask_bind {β : Type} {J : W → Event E → Prop} {c : Call} {f : c.Answer → Action β}
    {Q : Except Failure β → W → Prop}
    (next : ∀ m, E.admits c w m → J w ⟨c, m⟩ ∧ Obeys E J (f (E.answer c w m)).run Q (E.next c w m)) :
    Obeys E J (ask c >>= f).run Q w := by
  rw [Effect.run_bind, run_ask, Program.call_bind, obeys_call]
  exact next

/-- A part whose result is handed on, whatever it is. -/
theorem Effect.Obeys.attempt_bind {α β : Type} {J : W → Event E → Prop} {x : Action α}
    {f : Except Failure α → Action β} {R : Except Failure α → W → Prop}
    {Q : Except Failure β → W → Prop} (hx : Obeys E J x.run R w)
    (next : ∀ r w', R r w' → Obeys E J (f r).run Q w') : Obeys E J (attempt x >>= f).run Q w := by
  rw [run_attempt_bind, obeys_bind]
  exact hx.mono (fun _ _ h => h) next

/-- A call that some run makes, and what it goes on with. -/
theorem Effect.Can.ask {c : Call} {Q : Except Failure c.Answer → W → Prop} (m : E.Move c)
    (hm : E.admits c w m) (h : Q (.ok (E.answer c w m)) (E.next c w m)) :
    Can E (MatterTimeCtl.ask c).run Q w :=
  can_call.mpr ⟨m, hm, can_done.mpr h⟩

end Rules

end MatterTimeCtl
