/-
# MatterTimeCtl.Wire.Exchange — every exchange is opened, used for one transaction, and finished.

An exchange with a node carries one transaction: it is opened, one request goes out on it, and where the request was
an invoke whose response the peer wants acknowledged, and got one, the response is acknowledged.  `exchanges` is
the automaton of that, with nothing else in between, and every invocation heeds it: nothing is sent but on an exchange
that was opened for it, no open exchange is left lying, and no response is left unacknowledged.
-/
import MatterTimeCtl.Scenario
import MatterTimeCtl.Wire.OffWire

namespace MatterTimeCtl

open Files Effect

/-! ## The automaton -/

/-- Where the exchange stands. -/
inductive Line where
  | closed
  /-- Opened, and nothing sent yet. -/
  | opened (nodeId : NodeId)
  /-- An invoke was answered, and the answer is not acknowledged yet. -/
  | answered (nodeId : NodeId)

/-- The invokes with a response that is to be acknowledged. -/
def Request.invokes : Request → Bool
  | .setTimeZone _ | .updateFabricLabel _ | .removeFabric _ => true
  | _ => false

/-- **The discipline of exchanges.** -/
def exchanges : Monitor Call Call.Answer Line where
  may
    | .closed, .wire _ _ => False
    | .closed, _ => True
    | .opened n, .wire m r => m = n ∧ r ≠ .complete
    | .answered n, .wire m r => m = n ∧ r = .complete
    | _, _ => False
  see _ c a := match c, a with
    | .timed _ (.initiate n), some (.ok ()) => .opened n
    | .wire n r, .ok _ => if r.invokes then .answered n else .closed
    | _, _ => .closed

/-! ## Who heeds it -/

section Tidy

variable {α β : Type}

/-- The part opens exchanges and finishes them. -/
def Tidy (p : Prog α) : Prop := Heeds exchanges p (fun _ line => line = .closed) .closed

theorem exchanges_offWire {c : Call} (hc : OffWire c) :
    exchanges.may .closed c ∧ ∀ a, exchanges.see .closed c a = .closed := by
  cases c with
  | wire n r => exact hc.elim
  | timed secs future =>
      cases future with
      | initiate n => exact hc.elim
      | _ => exact ⟨trivial, fun _ => rfl⟩
  | _ => exact ⟨trivial, fun _ => rfl⟩

theorem tidy_of_uses {p : Prog α} (hp : p.Uses OffWire) : Tidy p := Heeds.of_uses hp fun _ => exchanges_offWire

theorem Tidy.bind {x : Action α} {f : α → Action β} (hx : Tidy x.run) (hf : ∀ a, Tidy (f a).run) :
    Tidy (x >>= f).run := by
  refine Heeds.run_bind hx (fun a line h => ?_) fun _ _ h => h
  subst h
  exact hf a

theorem Tidy.attempt_bind {x : Action α} {f : Except Failure α → Action β} (hx : Tidy x.run)
    (hf : ∀ r, Tidy (f r).run) : Tidy (attempt x >>= f).run := by
  unfold Tidy
  rw [run_attempt_bind, heeds_bind]
  refine Heeds.mono hx fun r line h => ?_
  subst h
  exact hf r

theorem tidy_pure (a : α) : Tidy (pure a : Action α).run := heeds_done.mpr rfl

theorem tidy_throw (e : Failure) : Tidy (throw e : Action α).run := heeds_done.mpr rfl

theorem tidy_orFail {ε : Type} (f : ε → Failure) (r : Except ε α) : Tidy (orFail f r).run := by
  cases r with
  | ok a => exact tidy_pure a
  | error e => exact tidy_throw (f e)

theorem tidy_ask {c : Call} (hc : OffWire c) : Tidy (ask c).run := tidy_of_uses (uses_ask hc)

end Tidy

/-! ### Transactions -/

section Transactions

variable (ext : Externals) (ctx : Ctx)

theorem heeds_initiate (what : String) (secs : Nat) (nodeId : NodeId) :
    Heeds exchanges (withTimeout what secs (.initiate nodeId)).run (fun r line =>
      match r with
      | .ok _ => line = .opened nodeId
      | .error _ => line = .closed) .closed := by
  unfold withTimeout
  rw [Effect.run_bind, run_ask, Program.call_bind, heeds_call]
  refine ⟨trivial, fun answer => ?_⟩
  rcases answer with _ | _ | _ <;> exact heeds_done.mpr rfl

/-- A connect leaves the exchange open that it returns, and none when it fails. -/
theorem heeds_connect (nodeId : NodeId) :
    Heeds exchanges (connect ext ctx nodeId).run (fun r line =>
      match r with
      | .ok n => n = nodeId ∧ line = .opened nodeId
      | .error _ => line = .closed) .closed := by
  unfold connect
  generalize connectAttempts = left
  induction left with
  | zero => exact heeds_done.mpr rfl
  | succ left ih =>
      unfold connectLoop
      rw [run_attempt_bind, heeds_bind]
      refine (heeds_initiate _ _ nodeId).mono fun r line h => ?_
      cases r with
      | ok _ => exact heeds_done.mpr ⟨rfl, h⟩
      | error e =>
          obtain rfl : line = .closed := h
          dsimp only
          split
          · exact heeds_done.mpr rfl
          · refine Heeds.run_bind (tidy_ask trivial) (fun _ line h => ?_) fun _ _ h => h
            subst h
            refine Heeds.run_bind (tidy_ask trivial) (fun _ line h => ?_) fun _ _ h => h
            subst h
            exact ih

/-- After a transaction the exchange is done with, but for the acknowledgement of an invoke. -/
theorem heeds_request (nodeId : NodeId) {r : Request} (hr : r ≠ .complete) (what : String) :
    Heeds exchanges (request ext ctx nodeId r what).run (fun result line =>
      match result with
      | .ok _ => line = if r.invokes then .answered nodeId else .closed
      | .error _ => line = .closed) .closed := by
  unfold request
  refine (heeds_connect ext ctx nodeId).run_bind (fun n line h => ?_) fun _ _ h => h
  obtain ⟨rfl, rfl⟩ := h
  rw [Effect.run_bind, run_ask, Program.call_bind, heeds_call]
  refine ⟨⟨rfl, hr⟩, fun reply => ?_⟩
  cases reply with
  | ok reply => exact heeds_done.mpr rfl
  | error e => exact heeds_done.mpr rfl

/-- A read, or an invoke without a response. -/
theorem tidy_request (nodeId : NodeId) {r : Request} (hr : r ≠ .complete) (plain : r.invokes = false)
    (what : String) : Tidy (request ext ctx nodeId r what).run := by
  refine (heeds_request ext ctx nodeId hr what).mono fun result line h => ?_
  cases result with
  | ok reply =>
      dsimp only at h
      rwa [plain, if_neg Bool.false_ne_true] at h
  | error e => exact h

/-- **An invoke and its acknowledgement.** -/
theorem tidy_invoke {α : Type} (nodeId : NodeId) {r : Request} (hr : r ≠ .complete) (invokes : r.invokes = true)
    (what done : String) {f : r.Reply → Action α} (hf : ∀ reply, Tidy (f reply).run) :
    Tidy (do
      let reply ← request ext ctx nodeId r what
      ask (.wire nodeId .complete) >>= orFail (.matter done)
      f reply : Action α).run := by
  refine (heeds_request ext ctx nodeId hr what).run_bind (fun reply line h => ?_) fun _ _ h => h
  obtain rfl : line = .answered nodeId := by
    dsimp only at h
    rwa [invokes, if_pos rfl] at h
  rw [bind_assoc, Effect.run_bind, run_ask, Program.call_bind, heeds_call]
  refine ⟨⟨rfl, rfl⟩, fun answer => ?_⟩
  cases answer with
  | ok _ => exact hf reply
  | error e => exact heeds_done.mpr rfl

/-! ### The operations -/

theorem tidy_readVendorName (nodeId : NodeId) : Tidy (readVendorName ext ctx nodeId).run :=
  (tidy_request ext ctx nodeId (by nofun) (by rfl) _).bind fun _ => (tidy_orFail _ _).bind fun _ => tidy_pure _

theorem tidy_readProductName (nodeId : NodeId) : Tidy (readProductName ext ctx nodeId).run :=
  (tidy_request ext ctx nodeId (by nofun) (by rfl) _).bind fun _ => (tidy_orFail _ _).bind fun _ => tidy_pure _

theorem tidy_readDeviceNames (nodeId : NodeId) : Tidy (readDeviceNames ext ctx nodeId).run :=
  (tidy_readVendorName ext ctx nodeId).attempt_bind fun _ =>
    (tidy_readProductName ext ctx nodeId).attempt_bind fun _ => tidy_pure _

theorem tidy_readOurFabricEntry (nodeId : NodeId) : Tidy (readOurFabricEntry ext ctx nodeId).run :=
  (tidy_request ext ctx nodeId (by nofun) (by rfl) _).bind fun _ => tidy_orFail _ _

/-- One transaction whose answer is looked at before it is judged. -/
theorem tidy_ask_wire {α : Type} (nodeId : NodeId) {r : Request} (hr : r ≠ .complete)
    (plain : r.invokes = false) {f : NodeId → Except MatterError r.Reply → Action α}
    (hf : ∀ reply, Tidy (f nodeId reply).run) :
    Tidy (do
      let exchange ← connect ext ctx nodeId
      let reply ← ask (.wire exchange r)
      f exchange reply : Action α).run := by
  refine (heeds_connect ext ctx nodeId).run_bind (fun n line h => ?_) fun _ _ h => h
  obtain ⟨rfl, rfl⟩ := h
  rw [Effect.run_bind, run_ask, Program.call_bind, heeds_call]
  refine ⟨⟨rfl, hr⟩, fun reply => ?_⟩
  have closed : exchanges.see (.opened n) (.wire n r) reply = .closed := by
    cases reply with
    | ok reply =>
        show (if r.invokes then Line.answered n else Line.closed) = .closed
        rw [plain, if_neg Bool.false_ne_true]
    | error e => rfl
  rw [closed]
  exact hf reply

theorem tidy_readFeatureMap (nodeId : NodeId) : Tidy (readFeatureMap ext ctx nodeId).run := by
  refine tidy_ask_wire ext ctx nodeId (r := .featureMapRead) nofun rfl fun reply => ?_
  cases reply with
  | ok map => exact tidy_pure _
  | error e =>
      dsimp only
      split
      · exact (tidy_ask (c := .log .warn _) trivial).bind fun _ => tidy_pure _
      · exact tidy_throw _

theorem tidy_writeZoneAndDst (nodeId : NodeId) (tz : TimeZone) (nowTs : Timestamp) :
    Tidy (writeZoneAndDst ext ctx nodeId tz nowTs).run := by
  refine tidy_invoke ext ctx nodeId (by nofun) (by rfl) _ _ fun response => ?_
  split
  · exact tidy_pure _
  · exact (tidy_request ext ctx nodeId (by nofun) (by rfl) _).bind fun _ =>
      (tidy_request ext ctx nodeId (by nofun) (by rfl) _).bind fun _ => tidy_pure _

theorem tidy_writeClock (nodeId : NodeId) (hasTimeZone : Bool) (utcWrite : MatterMicros) (nowTs : Timestamp) :
    Tidy (writeClock ext ctx nodeId hasTimeZone utcWrite nowTs).run := by
  refine (tidy_request ext ctx nodeId (by nofun) (by rfl) _).bind fun _ => ?_
  split
  · exact tidy_writeZoneAndDst ext ctx nodeId _ nowTs
  · exact tidy_pure _

theorem tidy_verifyClock (nodeId : NodeId) (utcWrite : MatterMicros) :
    Tidy (verifyClock ext ctx nodeId utcWrite).run := by
  refine (tidy_request ext ctx nodeId (by nofun) (by rfl) _).bind fun after => ?_
  dsimp only
  split
  · exact tidy_throw _
  · exact tidy_pure _

theorem tidy_ensureFabricLabel (nodeId : NodeId) : Tidy (ensureFabricLabel ext ctx nodeId).run := by
  refine Tidy.attempt_bind ?_ fun r => ?_
  · refine (tidy_readOurFabricEntry ext ctx nodeId).bind fun (current, _) => ?_
    dsimp only
    split
    · exact tidy_pure _
    · have invoke := tidy_invoke ext ctx nodeId (r := .updateFabricLabel ctx.config.fabricLabel) (by nofun) rfl
        "UpdateFabricLabel" "UpdateFabricLabel completion" (f := fun _ => pure ()) fun _ => tidy_pure ()
      simpa using invoke
  · cases r with
    | ok _ => exact tidy_pure _
    | error _ => exact tidy_ask trivial

theorem tidy_syncOne (nodeId : NodeId) (manualTime : Option MatterMicros) :
    Tidy (syncOne ext ctx nodeId manualTime).run := by
  refine (tidy_ask (c := .now) trivial).bind fun nowTs =>
    (tidy_readFeatureMap ext ctx nodeId).bind fun featureMap => ?_
  cases featureMap with
  | none => exact tidy_pure _
  | some featureMap =>
      have matterNow_ : Tidy matterNow.run := (tidy_ask (c := .now) trivial).bind fun _ => tidy_pure _
      have value : Tidy (utcToWrite manualTime).run := by
        cases manualTime with
        | none => exact matterNow_
        | some m => exact tidy_pure _
      exact (tidy_request ext ctx nodeId (by nofun) (by rfl) _).bind fun _ => matterNow_.bind fun _ =>
        value.bind fun _ => (tidy_writeClock ext ctx nodeId _ _ nowTs).bind fun (_, _) =>
        (tidy_verifyClock ext ctx nodeId _).bind fun _ => (tidy_ensureFabricLabel ext ctx nodeId).bind fun _ =>
        tidy_pure _

theorem tidy_sync (manualTime : Option MatterMicros) (targets : List NodeId) :
    Tidy (SyncOp.run ext ctx manualTime targets).run := by
  induction targets with
  | nil => exact tidy_pure _
  | cons nodeId targets ih =>
      refine Tidy.bind ?_ fun _ => ih.bind fun _ => tidy_pure _
      exact (tidy_of_uses (offWire_noteAttempt ext nodeId)).bind fun _ =>
        (tidy_syncOne ext ctx nodeId manualTime).attempt_bind fun _ =>
        (tidy_of_uses (offWire_noteOutcome ext nodeId _)).bind fun _ =>
        (tidy_of_uses (offWire_logOutcome nodeId _)).bind fun _ => tidy_pure _

theorem tidy_decommissionOne (nodeId : NodeId) : Tidy (decommissionOne ext ctx nodeId).run := by
  refine (tidy_readOurFabricEntry ext ctx nodeId).bind fun (_, ourIndex) => ?_
  cases ourIndex with
  | none => exact tidy_throw _
  | some ourIndex =>
      have invoke := tidy_invoke ext ctx nodeId (r := .removeFabric ourIndex) (by nofun) rfl
        "RemoveFabric" "RemoveFabric completion" (f := fun _ => pure ()) fun _ => tidy_pure ()
      simpa using invoke

theorem tidy_decommission (targets : List NodeId) : Tidy (DecommissionOp.run ext ctx targets).run := by
  induction targets with
  | nil => exact tidy_pure _
  | cons nodeId targets ih =>
      refine Tidy.bind ?_ fun _ => ih.bind fun _ => tidy_pure _
      refine (tidy_decommissionOne ext ctx nodeId).attempt_bind fun r => ?_
      cases r with
      | ok _ => exact (tidy_of_uses (offWire_removeDevice ext nodeId)).bind fun _ => tidy_pure _
      | error _ => exact (tidy_ask (c := .log .error _) trivial).bind fun _ => tidy_pure _

theorem tidy_readDstMax (nodeId : NodeId) (hasTz : Bool) : Tidy (readDstMax ext ctx nodeId hasTz).run := by
  unfold readDstMax
  split
  · exact tidy_ask_wire ext ctx nodeId (r := .dstOffsetListMaxSizeRead) nofun rfl fun _ => tidy_pure _
  · exact tidy_pure _

theorem tidy_inspectOne (nodeId : NodeId) : Tidy (inspectOne ext ctx nodeId).run :=
  (tidy_readDeviceNames ext ctx nodeId).bind fun (_, _) =>
    (tidy_request ext ctx nodeId (by nofun) (by rfl) _).bind fun _ =>
    (tidy_request ext ctx nodeId (by nofun) (by rfl) _).bind fun _ =>
    (tidy_request ext ctx nodeId (by nofun) (by rfl) _).bind fun _ =>
    (tidy_readDstMax ext ctx nodeId _).bind fun _ =>
    (tidy_readOurFabricEntry ext ctx nodeId).bind fun (_, _) => tidy_pure _

theorem tidy_inspect (targets : List NodeId) : Tidy (InspectOp.run ext ctx targets).run := by
  induction targets with
  | nil => exact tidy_pure _
  | cons nodeId targets ih =>
      refine Tidy.bind ?_ fun _ => ih.bind fun _ => tidy_pure _
      refine (tidy_inspectOne ext ctx nodeId).attempt_bind fun r => ?_
      cases r with
      | ok _ => exact tidy_pure _
      | error _ => exact (tidy_ask (c := .log .error _) trivial).bind fun _ => tidy_pure _

theorem tidy_commission (onboarding : Onboarding) : Tidy (CommissionOp.run ext ctx onboarding).run :=
  (tidy_of_uses (offWire_join ctx onboarding)).bind fun nodeId =>
    (tidy_readDeviceNames ext ctx nodeId).bind fun (_, _) =>
    (tidy_of_uses (offWire_updateDevice ext nodeId fun _ => uses_run_bind (uses_ask (c := .now) trivial) fun _ =>
      uses_run_pure _)).bind fun _ =>
    (tidy_of_uses (offWire_store _ _ _)).bind fun _ => tidy_pure _

theorem tidy_runOp (op : Op) : Tidy (runOp ext ctx op).run := by
  cases op with
  | commission onboarding => exact tidy_commission ext ctx onboarding
  | sync targets manualTime => exact tidy_sync ext ctx manualTime targets
  | decommission targets => exact tidy_decommission ext ctx targets
  | inspect targets => exact tidy_inspect ext ctx targets

end Transactions

/-! ### Every invocation -/

section Invocations

variable (ext : Externals) (config : Config)

theorem tidy_run (op : Op) : Tidy (run ext config op).run := by
  refine heeds_run (M := exchanges) (I := (· = Line.closed)) (fun c line hc h => ?_) rfl op
    fun fabrics fabIdx identity line h => ?_
  · subst h
    exact exchanges_offWire hc
  · subst h
    exact tidy_runOp ext _ op

theorem tidy_looks {α : Type} {p : Prog α} (hp : p.Uses Looks) : Tidy p :=
  tidy_of_uses (hp.mono fun _ => Looks.offWire)

theorem tidy_command (command : Command) : Tidy (runCommand ext config command).run := by
  cases command with
  | status filter => exact tidy_looks (looks_status ext config filter)
  | sync target time =>
      refine (tidy_looks (looks_manualTimeOf ext config time)).bind fun manualTime =>
        (tidy_ask (c := .ntpSynchronized) trivial).bind fun ntp => ?_
      split
      · exact (tidy_ask (c := .log .warn _) trivial).bind fun _ => tidy_pure _
      · exact (tidy_looks (looks_resolve ext target)).bind fun targets =>
          (tidy_run ext config _).bind fun _ => tidy_pure _
  | commission onboarding => exact (tidy_run ext config _).bind fun _ => tidy_pure _
  | decommission target =>
      exact (tidy_looks (looks_resolve ext target)).bind fun targets => (tidy_run ext config _).bind fun _ =>
        (tidy_looks (looks_loadOrDefault ext _)).bind fun _ => tidy_pure _
  | inspect target =>
      refine (tidy_looks (looks_resolveOrEmpty ext target)).bind fun targets => ?_
      split
      · exact tidy_pure _
      · exact (tidy_run ext config _).bind fun _ => tidy_pure _

end Invocations

/-! ## What the automaton stands for -/

/-- **Exchanges are opened, used once, and finished.** -/
structure Disciplined (log : List (Entry Call.Answer)) : Prop where
  /-- A request goes out on an exchange that was opened with its node right before. -/
  opened : ∀ {pre post n r a}, log = pre ++ ⟨.wire n r, a⟩ :: post → r ≠ .complete →
    ∃ pre' secs, pre = pre' ++ [⟨.timed secs (.initiate n), some (.ok ())⟩]
  /-- An exchange that was opened is used right away. -/
  used : ∀ {pre post n secs e}, log = pre ++ ⟨.timed secs (.initiate n), some (.ok ())⟩ :: e :: post →
    ∃ r, r ≠ .complete ∧ e.1 = .wire n r
  /-- An invoke that was answered is acknowledged right away. -/
  acknowledged : ∀ {pre post n r reply e}, log = pre ++ ⟨.wire n r, .ok reply⟩ :: e :: post →
    r.invokes = true → e.1 = .wire n .complete
  /-- Only such an invoke is acknowledged. -/
  acknowledges : ∀ {pre post n a}, log = pre ++ ⟨.wire n .complete, a⟩ :: post →
    ∃ pre' r reply, r.invokes = true ∧ pre = pre' ++ [⟨.wire n r, .ok reply⟩]

section Disciplined

variable {log : List (Entry Call.Answer)} {n : NodeId}

theorem opened_of_see {line : Line} {c : Call} {a : c.Answer} (h : exchanges.see line c a = .opened n) :
    ∃ secs, (⟨c, a⟩ : Entry Call.Answer) = ⟨.timed secs (.initiate n), some (.ok ())⟩ := by
  unfold exchanges at h
  dsimp only at h
  split at h
  · cases h
    exact ⟨_, rfl⟩
  · split at h <;> cases h
  · cases h

theorem answered_of_see {line : Line} {c : Call} {a : c.Answer} (h : exchanges.see line c a = .answered n) :
    ∃ r reply, r.invokes = true ∧ (⟨c, a⟩ : Entry Call.Answer) = ⟨.wire n r, .ok reply⟩ := by
  unfold exchanges at h
  dsimp only at h
  split at h
  · cases h
  · split at h
    · cases h
      exact ⟨_, _, ‹_›, rfl⟩
    · cases h
  · cases h

theorem opened_of_after (h : exchanges.after .closed log = .opened n) :
    ∃ log' secs, log = log' ++ [⟨.timed secs (.initiate n), some (.ok ())⟩] := by
  rcases List.eq_nil_or_concat log with rfl | ⟨log', ⟨c, a⟩, rfl⟩
  · cases h
  · rw [List.concat_eq_append, Monitor.after_concat] at h
    obtain ⟨secs, he⟩ := opened_of_see h
    exact ⟨log', secs, by rw [List.concat_eq_append, he]⟩

theorem answered_of_after (h : exchanges.after .closed log = .answered n) :
    ∃ log' r reply, r.invokes = true ∧ log = log' ++ [⟨.wire n r, .ok reply⟩] := by
  rcases List.eq_nil_or_concat log with rfl | ⟨log', ⟨c, a⟩, rfl⟩
  · cases h
  · rw [List.concat_eq_append, Monitor.after_concat] at h
    obtain ⟨r, reply, invokes, he⟩ := answered_of_see h
    exact ⟨log', r, reply, invokes, by rw [List.concat_eq_append, he]⟩

/-- What may be sent tells where the exchange stands. -/
theorem line_of_may {line : Line} {r : Request} (h : exchanges.may line (.wire n r)) :
    (r ≠ .complete ∧ line = .opened n) ∨ (r = .complete ∧ line = .answered n) := by
  cases line with
  | closed => exact h.elim
  | opened m => exact .inl ⟨h.2, congrArg _ h.1.symm⟩
  | answered m => exact .inr ⟨h.2, congrArg _ h.1.symm⟩

/-- **The logs that the automaton accepts are disciplined.** -/
theorem disciplined_of_accepts (h : exchanges.Accepts .closed log) : Disciplined log where
  opened := by
    rintro pre post n r a rfl hr
    rcases line_of_may h.may with ⟨-, here⟩ | ⟨rfl, -⟩
    · exact opened_of_after here
    · exact absurd rfl hr
  used := by
    rintro pre post n secs ⟨c, a⟩ rfl
    rw [List.append_cons] at h
    have may := h.may
    rw [Monitor.after_concat] at may
    cases c with
    | wire m r =>
        obtain ⟨rfl, hr⟩ : m = n ∧ r ≠ .complete := may
        exact ⟨r, hr, rfl⟩
    | _ => exact may.elim
  acknowledged := by
    rintro pre post n r reply ⟨c, a⟩ rfl invokes
    rw [List.append_cons] at h
    have may := h.may
    have answered : exchanges.see (exchanges.after .closed pre) (.wire n r) (.ok reply) = .answered n :=
      if_pos invokes
    rw [Monitor.after_concat, answered] at may
    cases c with
    | wire m r' =>
        obtain ⟨rfl, rfl⟩ : m = n ∧ r' = .complete := may
        rfl
    | _ => exact may.elim
  acknowledges := by
    rintro pre post n a rfl
    rcases line_of_may h.may with ⟨hr, -⟩ | ⟨-, here⟩
    · exact absurd rfl hr
    · exact answered_of_after here

end Disciplined

/-- **Every invocation's exchanges are disciplined**, whatever it is answered and wherever it is stopped. -/
theorem exchanges_disciplined (ext : Externals) (config : Config) (command : Command)
    {log : List (Entry Call.Answer)} {q : Prog (Except Failure Output)}
    (path : (runCommand ext config command).run.Path log q) : Disciplined log :=
  disciplined_of_accepts ((tidy_command ext config command).accepts path)

/-- A commission on a new host, to its end. -/
theorem commission_disciplined : ∃ log r,
    (runCommand reference Scenario.config (.commission Scenario.onboarding)).run.Path log (.done r) ∧
      Disciplined log := by
  have path := (({} : Scenario).script.exec
    (runCommand reference Scenario.config (.commission Scenario.onboarding)).run Scenario.freshHost).path
  exact ⟨_, _, path, exchanges_disciplined reference Scenario.config _ path⟩

end MatterTimeCtl
