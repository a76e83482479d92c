/-
# MatterTimeCtl.Batch.Isolation — when one target's trouble ends the whole batch.

What goes wrong on the wire stays in the outcome of the target.  What goes wrong with the registry does
not: both loops give up at the first registry write that fails, and with the error the outcomes of the
targets that came before are lost, devices that were decommissioned among them.

A device accepts RemoveFabric when it processes the request, whether or not its response gets back.  The
program hears of it only if the response arrives and its acknowledgement goes through.
-/
import MatterTimeCtl.Batch.Decommission
import MatterTimeCtl.Batch.Sync

namespace MatterTimeCtl

open Files Effect

section Loops

variable {ext : Externals} {plan : (c : Call) → c.Move → Prop} {ctx : Ctx}

/-! ## Decommission -/

theorem writeBound_decommissionStep (nodeId : NodeId) :
    WriteBound ext plan (DecommissionOp.step ext ctx nodeId) := by
  refine (writeBound_of_talk (succeeds_attempt _)
    (uses_attempt (talk_decommissionOne ext ctx nodeId))).bind fun r => ?_
  cases r with
  | ok u => exact (writeBound_removeDevice nodeId).bind fun _ => writeBound_pure _
  | error e =>
      exact (writeBound_of_talk (.ask _) (uses_ask (by trivial))).bind fun _ => writeBound_pure _

/-- A decommission returns its outcomes exactly if no write failed. -/
theorem writeBound_decommissionRun (targets : List NodeId) :
    WriteBound ext plan (DecommissionOp.run ext ctx targets) := by
  induction targets with
  | nil => exact writeBound_pure _
  | cons nodeId targets ih =>
      exact (writeBound_decommissionStep nodeId).bind fun _ => ih.bind fun _ => writeBound_pure _

/-! ### Responses -/

/-- A response of the device to RemoveFabric arrived. -/
def Arrived (nodeId : NodeId) (tr : List (Event (planned ext plan))) : Prop :=
  ∃ (index : UInt8) (m : Call.Move (.wire nodeId (.removeFabric index))),
    ⟨.wire nodeId (.removeFabric index), m⟩ ∈ tr ∧ ∃ response, m.choice.reply = .ok response

@[simp] theorem arrived_append (nodeId : NodeId) (tr tr' : List (Event (planned ext plan))) :
    Arrived nodeId (tr ++ tr') ↔ Arrived nodeId tr ∨ Arrived nodeId tr' := by
  simp only [Arrived, List.mem_append, or_and_right, exists_or]

/-- What is acknowledged is a response that arrived. -/
def AcksArrived (tr : List (Event (planned ext plan))) : Prop :=
  ∀ nodeId, Acknowledged nodeId tr → Arrived nodeId tr

theorem AcksArrived.append {tr tr' : List (Event (planned ext plan))} (h : AcksArrived tr)
    (h' : AcksArrived tr') : AcksArrived (tr ++ tr') := by
  intro nodeId acknowledged
  rw [acknowledged_append] at acknowledged
  rw [arrived_append]
  exact acknowledged.imp (h nodeId) (h' nodeId)

/-- A part that acknowledges nothing. -/
theorem acksArrived_of_uses {α : Type} {p : Prog α} (hp : p.Uses NoComplete) (w : World) :
    Traces (planned ext plan) p (fun _ tr _ => AcksArrived tr) w :=
  (Traces.of_uses hp w).mono fun _ _ _ h nodeId acknowledged =>
    absurd acknowledged (not_acknowledged_of_noComplete h nodeId)

theorem acksArrived_bind {α β : Type} {x : Action α} {f : α → Action β} {w : World}
    (first : Traces (planned ext plan) x.run (fun _ tr _ => AcksArrived tr) w)
    (rest : ∀ a w₁, Traces (planned ext plan) (f a).run (fun _ tr _ => AcksArrived tr) w₁) :
    Traces (planned ext plan) (x >>= f).run (fun _ tr _ => AcksArrived tr) w :=
  first.run_bind (fun a _ w₁ h => (rest a w₁).mono fun _ _ _ h' => h.append h') fun _ _ _ h => h

/-- A RemoveFabric that returns has had its response. -/
theorem arrived_of_request (nodeId : NodeId) (index : UInt8) (what : String) (w : World) :
    Traces (planned ext plan) (request ext ctx nodeId (.removeFabric index) what).run
      (fun r tr _ => (∃ status, r = .ok status) → Arrived nodeId tr) w := by
  unfold request
  refine (Traces.of_returns (returns_connect ext ctx nodeId) w).run_bind (fun n tr w₁ dialed => ?_)
    fun e tr w₁ _ => nofun
  obtain rfl := dialed n rfl
  rw [Effect.run_bind, run_ask, Program.call_bind, traces_call]
  intro m _
  refine traces_orFail.mpr ?_
  rintro ⟨response, answered⟩
  refine ⟨index, m, List.mem_append_right _ (List.mem_singleton_self _), response, ?_⟩
  change m.choice.reply.mapError _ = _ at answered
  cases hreply : m.choice.reply with
  | error e =>
      rw [hreply] at answered
      cases answered
  | ok response' =>
      rw [hreply] at answered
      exact congrArg _ (Except.ok.inj answered)

theorem acksArrived_decommissionOne (nodeId : NodeId) (w : World) :
    Traces (planned ext plan) (decommissionOne ext ctx nodeId).run (fun _ tr _ => AcksArrived tr) w := by
  have read := talk_readOurFabricEntry (R := (· = .fabricsRead)) ext ctx nodeId rfl
  refine acksArrived_bind (acksArrived_of_uses (read.mono fun _ => Talks.noComplete (by simp)) w)
    fun (label, index) w₁ => ?_
  cases index with
  | none => exact acksArrived_of_uses (uses_run_throw _) w₁
  | some index =>
      -- the acknowledgement comes right after the response that it is for
      have asks := talk_request (R := (· = .removeFabric index)) ext ctx nodeId _ "RemoveFabric" rfl
      refine ((arrived_of_request nodeId index _ w₁).and
        (acksArrived_of_uses (asks.mono fun _ => Talks.noComplete (by simp)) w₁)).run_bind
        (fun status tr w₂ ⟨arrived, silent⟩ => ?_) fun e tr w₂ h => h.2
      refine (complete_traces nodeId _ w₂).mono fun r tr' w₃ h k acknowledged => ?_
      rw [arrived_append]
      by_cases hk : k = nodeId
      · subst hk
        exact .inl (arrived ⟨status, rfl⟩)
      · rw [acknowledged_append] at acknowledged
        exact .inl (silent k (acknowledged.resolve_right (h.2 k hk)))

theorem acksArrived_decommissionStep (nodeId : NodeId) (w : World) :
    Traces (planned ext plan) (DecommissionOp.step ext ctx nodeId).run (fun _ tr _ => AcksArrived tr) w := by
  refine Traces.attempt_bind (acksArrived_decommissionOne nodeId w) fun r tr w₁ first => ?_
  cases r with
  | ok u =>
      have rest := (onFiles_removeDevice ext nodeId).mono fun _ => OnFiles.noComplete
      exact (acksArrived_of_uses (uses_run_bind rest fun _ => uses_run_pure _) w₁).mono
        fun _ _ _ h => first.append h
  | error e =>
      exact (acksArrived_of_uses (uses_run_bind (uses_ask (by trivial)) fun _ => uses_run_pure _) w₁).mono
        fun _ _ _ h => first.append h

/-- By induction on the targets. -/
theorem acksArrived_decommissionRun (targets : List NodeId) (w : World) :
    Traces (planned ext plan) (DecommissionOp.run ext ctx targets).run (fun _ tr _ => AcksArrived tr) w := by
  induction targets generalizing w with
  | nil => exact acksArrived_of_uses (uses_run_pure _) w
  | cons nodeId targets ih =>
      exact acksArrived_bind (acksArrived_decommissionStep nodeId w) fun _ w₁ =>
        acksArrived_bind (ih w₁) fun _ w₂ => acksArrived_of_uses (uses_run_pure _) w₂

end Loops

/-! ## Both -/

/-- One outcome for each target, in order. -/
def SyncCompletes (targets : List NodeId) (r : Except Failure (List SyncOutcome)) : Prop :=
  ∃ outcomes, r = .ok outcomes ∧ outcomes.map (·.nodeId) = targets

/-- The device accepted RemoveFabric: it processed one, and gave no other answer than OK that arrived. -/
def AcceptedRemoval {ext : Externals} {plan : (c : Call) → c.Move → Prop} (nodeId : NodeId)
    (tr : List (Event (planned ext plan))) : Prop :=
  ∃ (index : UInt8) (m : Call.Move (.wire nodeId (.removeFabric index))),
    ⟨.wire nodeId (.removeFabric index), m⟩ ∈ tr ∧ m.choice.processed.isSome = true ∧
      ∀ status, m.choice.reply = .ok (.ok (.ok status)) → status = 0

/-- One outcome for each target, in order, and every device that accepted RemoveFabric is reported as
removed. -/
def DecommissionCompletes {ext : Externals} {plan : (c : Call) → c.Move → Prop} (targets : List NodeId)
    (r : Except Failure (List DecommissionOutcome)) (tr : List (Event (planned ext plan))) : Prop :=
  ∃ outcomes, r = .ok outcomes ∧ outcomes.map (·.nodeId) = targets ∧
    ∀ nodeId, AcceptedRemoval nodeId tr → Removed outcomes nodeId

/-- **A batch is completed exactly if no registry write fails**, whatever the devices do; and a decommission
has then reported every device that accepted RemoveFabric, exactly if the responses of those devices arrived and
were acknowledged. -/
theorem batch_completes_iff (ext : Externals) (ctx : Ctx) (plan : (c : Call) → c.Move → Prop)
    (targets : List NodeId) (w w' : World) (tr : List (Event (planned ext plan))) :
    (∀ manualTime r, Exec (planned ext plan) (SyncOp.run ext ctx manualTime targets).run w tr (.done r) w' →
      (SyncCompletes targets r ↔ NoWriteFailed tr)) ∧
    (∀ r, Exec (planned ext plan) (DecommissionOp.run ext ctx targets).run w tr (.done r) w' →
      (DecommissionCompletes targets r tr ↔
        NoWriteFailed tr ∧ ∀ nodeId, AcceptedRemoval nodeId tr → Arrived nodeId tr ∧ Acknowledged nodeId tr)) := by
  constructor
  · intro manualTime r hx
    have bound := (writeBound_syncRun manualTime targets w).result hx
    have reported := (Traces.of_returns (returns_syncRun ext ctx manualTime targets) w).result hx
    rw [← bound]
    constructor
    · rintro ⟨outcomes, rfl, -⟩
      exact ⟨outcomes, rfl⟩
    · rintro ⟨outcomes, rfl⟩
      exact ⟨outcomes, rfl, (reported outcomes rfl).ids⟩
  · intro r hx
    have bound := (writeBound_decommissionRun targets w).result hx
    have told := (decommissionRun_traces targets w).result hx
    have arrived := (acksArrived_decommissionRun targets w).result hx
    rw [← bound]
    constructor
    · rintro ⟨outcomes, rfl, -, removed⟩
      refine ⟨⟨outcomes, rfl⟩, fun nodeId accepted => ?_⟩
      have acknowledged := ((told outcomes rfl).removed nodeId).mp (removed nodeId accepted)
      exact ⟨arrived nodeId acknowledged, acknowledged⟩
    · rintro ⟨⟨outcomes, rfl⟩, heard⟩
      refine ⟨outcomes, rfl, (told outcomes rfl).ids, fun nodeId accepted => ?_⟩
      exact ((told outcomes rfl).removed nodeId).mpr (heard nodeId accepted).2

namespace Scenario

/-- Node 1 accepts RemoveFabric if it is sent one and does what it is asked. -/
theorem acceptedRemoval_of_sent (S : Script anything) {α : Type} {p : Prog α} {w : World}
    (obliges : ∀ index w, (S.move (.wire 1 (.removeFabric index)) w).choice.processed.isSome = true ∧
      (S.move (.wire 1 (.removeFabric index)) w).choice.reply = .ok (.ok (.ok 0)))
    (sent : ((S.trace p w).map (·.1)).any removesNodeOne = true) : AcceptedRemoval 1 (S.trace p w) := by
  obtain ⟨index, m, hm⟩ := exists_of_sent sent
  obtain ⟨w', hmove⟩ := S.moves _ _ _ hm
  obtain rfl : m = S.move (.wire 1 (.removeFabric index)) w' := hmove
  obtain ⟨processed, replied⟩ := obliges index w'
  refine ⟨index, _, hm, processed, fun status answered => ?_⟩
  rw [replied] at answered
  exact (Except.ok.inj (Except.ok.inj (Except.ok.inj answered))).symm

/-- No file can be opened for writing. -/
def readOnlyMove : (c : Call) → World → Option c.Move
  | .file (.openTruncate _), w => some ⟨w.clock, .fail 0⟩
  | _, _ => none

theorem admits_readOnlyMove (c : Call) (w : World) (m : c.Move) (h : readOnlyMove c w = some m) :
    (system reference).admits c w m := by
  unfold readOnlyMove at h
  split at h
  · obtain rfl := Option.some.inj h
    exact ⟨le_rfl, trivial⟩
  · cases h

/-- A scenario in which devices do what they are asked and devices.json cannot be written. -/
def readOnlyScript : Script anything :=
  ((Scenario.script {}).override readOnlyMove admits_readOnlyMove).restrict fun _ _ => trivial

/-- What comes of a decommission of nodes 1 and 2, with the calls that were made. -/
def unrecordedRemoval : Except Failure (List DecommissionOutcome) × List Call :=
  ((readOnlyScript.play (DecommissionOp.run reference ctx [1, 2]).run oneRegistered).1,
    (readOnlyScript.trace (DecommissionOp.run reference ctx [1, 2]).run oneRegistered).map (·.1))

end Scenario

open Scenario in
/-- **A failed write ends the batch.**  Node 1 accepts RemoveFabric, devices.json cannot be written, and the
run returns an error: node 1 is not reported and node 2 is not asked. -/
theorem failed_write_drops_outcomes :
    ∃ tr w', Exec anything (DecommissionOp.run reference ctx [1, 2]).run oneRegistered tr
        (.done (.error (.io .other))) w' ∧
      AcceptedRemoval 1 tr ∧ ¬ DecommissionCompletes [1, 2] (.error (.io .other)) tr := by
  have hx := readOnlyScript.exec (DecommissionOp.run reference ctx [1, 2]).run oneRegistered
  have failed : unrecordedRemoval.1 = .error (.io .other) := by decide +kernel
  have sent : unrecordedRemoval.2.any removesNodeOne = true := by decide +kernel
  unfold unrecordedRemoval at failed sent
  dsimp only at failed sent
  rw [failed] at hx
  refine ⟨_, _, hx, acceptedRemoval_of_sent readOnlyScript (fun _ _ => ⟨rfl, rfl⟩) sent, ?_⟩
  rintro ⟨outcomes, hr, -⟩
  cases hr

namespace Scenario

/-- What comes of a decommission of node 1 where nothing goes wrong, with the calls that were made. -/
def heardRemoval : Except Failure (List DecommissionOutcome) × List Call :=
  (((anyPlan {}).play (DecommissionOp.run reference ctx [1]).run oneRegistered).1,
    ((anyPlan {}).trace (DecommissionOp.run reference ctx [1]).run oneRegistered).map (·.1))

/-- A RemoveFabric goes to node 1 only. -/
def sparesOthers : Call → Bool
  | .wire n (.removeFabric _) => n = 1
  | _ => true

end Scenario

open Scenario in
/-- Where devices.json can be written and the response of node 1 gets through. -/
theorem written_batch_completes :
    (∃ tr r w', Exec anything (SyncOp.run reference ctx none [1, 2]).run oneRegistered tr (.done r) w' ∧
      SyncCompletes [1, 2] r) ∧
    ∃ tr r w', Exec anything (DecommissionOp.run reference ctx [1]).run oneRegistered tr (.done r) w' ∧
      AcceptedRemoval 1 tr ∧ DecommissionCompletes [1] r tr := by
  constructor
  · have hx := (anyPlan {}).exec (SyncOp.run reference ctx none [1, 2]).run oneRegistered
    exact ⟨_, _, _, hx, ((batch_completes_iff reference ctx _ [1, 2] _ _ _).1 none _ hx).mpr
      (noWriteFailed_of_moves (anyPlan {}) (not_failedWrite_move {}) _ _)⟩
  · have hx := (anyPlan {}).exec (DecommissionOp.run reference ctx [1]).run oneRegistered
    have removed : heardRemoval.1 = .ok [{ nodeId := 1, success := true, error := none }] := by decide +kernel
    have sent : heardRemoval.2.any removesNodeOne = true := by decide +kernel
    have spared : heardRemoval.2.all sparesOthers = true := by decide +kernel
    unfold heardRemoval at removed sent spared
    dsimp only at removed sent spared
    rw [removed] at hx
    have told := (decommissionRun_traces [1] oneRegistered).result hx _ rfl
    have acknowledged := (told.removed 1).mp ⟨_, List.mem_singleton_self _, rfl, rfl⟩
    have arrived := (acksArrived_decommissionRun [1] oneRegistered).result hx 1 acknowledged
    refine ⟨_, _, _, hx, acceptedRemoval_of_sent (anyPlan {}) (fun _ _ => ⟨rfl, rfl⟩) sent,
      ((batch_completes_iff reference ctx _ [1] _ _ _).2 _ hx).mpr
        ⟨noWriteFailed_of_moves (anyPlan {}) (not_failedWrite_move {}) _ _, ?_⟩⟩
    rintro nodeId ⟨index, m, hm, -⟩
    have own := List.all_eq_true.mp spared _ (List.mem_map_of_mem hm)
    obtain rfl : nodeId = 1 := of_decide_eq_true own
    exact ⟨arrived, acknowledged⟩

end MatterTimeCtl
