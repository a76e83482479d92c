/-
# MatterTimeCtl.Batch.Decommission — what a decommission says of each device, and what the device said.

`decommissionOne` goes by two things: that the response to RemoveFabric arrived, and that its completion
got through.  The status code in the response is only logged.  So a node is reported as removed, and
dropped from the registry, exactly if its response was acknowledged; whether the device answered with
status OK is another question.
-/
import MatterTimeCtl.Effect.Trace
import MatterTimeCtl.Storage.Registry

namespace MatterTimeCtl

open Files Effect

/-! ## What was said on the wire -/

section Wire

variable {ext : Externals} {plan : (c : Call) → c.Move → Prop}

/-- The device answered a RemoveFabric with status OK. -/
def AnsweredOk (nodeId : NodeId) (tr : List (Event (planned ext plan))) : Prop :=
  ∃ (index : UInt8) (m : Call.Move (.wire nodeId (.removeFabric index))),
    ⟨.wire nodeId (.removeFabric index), m⟩ ∈ tr ∧ m.choice.reply = .ok (.ok (.ok 0))

/-- The response of the device to an invoke was acknowledged; in a decommission that invoke is
RemoveFabric. -/
def Acknowledged (nodeId : NodeId) (tr : List (Event (planned ext plan))) : Prop :=
  ∃ m : Call.Move (.wire nodeId .complete), ⟨.wire nodeId .complete, m⟩ ∈ tr ∧ m.choice.reply = .ok ()

@[simp] theorem acknowledged_append (nodeId : NodeId) (tr tr' : List (Event (planned ext plan))) :
    Acknowledged nodeId (tr ++ tr') ↔ Acknowledged nodeId tr ∨ Acknowledged nodeId tr' := by
  simp only [Acknowledged, List.mem_append, or_and_right, exists_or]

@[simp] theorem not_acknowledged_nil (nodeId : NodeId) :
    ¬ Acknowledged nodeId ([] : List (Event (planned ext plan))) := by
  rintro ⟨m, hm, -⟩
  cases hm

/-- Calls that acknowledge nothing. -/
def NoComplete : Call → Prop
  | .wire _ .complete => False
  | _ => True

theorem not_acknowledged_of_noComplete {tr : List (Event (planned ext plan))} (h : ∀ e ∈ tr, NoComplete e.1)
    (nodeId : NodeId) : ¬ Acknowledged nodeId tr := by
  rintro ⟨m, hm, -⟩
  exact h _ hm

theorem Talks.noComplete {R : Request → Prop} (hR : ¬ R .complete) {c : Call} (h : Talks R c) :
    NoComplete c := by
  unfold NoComplete
  split
  · exact hR h
  · trivial

end Wire

/-! ## One device -/

section OneDevice

variable {ext : Externals} {plan : (c : Call) → c.Move → Prop} {ctx : Ctx}

/-- The acknowledgement of the response is the one move of this part. -/
theorem complete_traces (nodeId : NodeId) (what : String) (w : World) :
    Traces (planned ext plan) (ask (.wire nodeId .complete) >>= orFail (.matter what)).run
      (fun r tr _ => (r = .ok () ↔ Acknowledged nodeId tr) ∧ ∀ k, k ≠ nodeId → ¬ Acknowledged k tr) w := by
  rw [Effect.run_bind, run_ask, Program.call_bind, traces_call]
  intro m _
  obtain ⟨later, processed, reply⟩ := m
  have answered : (planned ext plan).answer (.wire nodeId .complete) w ⟨later, processed, reply⟩ =
      reply := rfl
  rw [answered]
  have others : ∀ k, k ≠ nodeId →
      ¬ Acknowledged k [(⟨.wire nodeId .complete, later, processed, reply⟩ : Event (planned ext plan))] := by
    rintro k hk ⟨m, hm, -⟩
    obtain ⟨h, -⟩ := Sigma.mk.inj (List.mem_singleton.mp hm)
    exact hk (Call.wire.inj h).1
  have own : Acknowledged nodeId [(⟨.wire nodeId .complete, later, processed, reply⟩ : Event (planned ext plan))] ↔
      reply = .ok () := by
    constructor
    · rintro ⟨m, hm, hreply⟩
      obtain ⟨-, h⟩ := Sigma.mk.inj (List.mem_singleton.mp hm)
      rw [eq_of_heq h] at hreply
      exact hreply
    · intro hreply
      exact ⟨_, List.mem_singleton_self _, hreply⟩
  cases reply with
  | ok u => exact traces_done.mpr ⟨⟨fun _ => own.mpr rfl, fun _ => rfl⟩, others⟩
  | error e =>
      refine traces_done.mpr ⟨⟨fun h => (by cases h), fun h => ?_⟩, others⟩
      cases own.mp h

/-- **One decommission** succeeds exactly if the device's response is acknowledged. -/
theorem decommissionOne_traces (nodeId : NodeId) (w : World) :
    Traces (planned ext plan) (decommissionOne ext ctx nodeId).run
      (fun r tr _ => (r = .ok () ↔ Acknowledged nodeId tr) ∧ ∀ k, k ≠ nodeId → ¬ Acknowledged k tr) w := by
  have silent : ∀ {α : Type} {x : Action α} {R : Request → Prop}, x.run.Uses (Talks R) →
      ¬ R .complete → ∀ w, Traces (planned ext plan) x.run
        (fun _ tr _ => ∀ k, ¬ Acknowledged k tr) w := fun hx hR w =>
    (Traces.of_uses (hx.mono fun _ => Talks.noComplete hR) w).mono
      fun _ _ _ h => not_acknowledged_of_noComplete h
  refine (silent (R := (· = .fabricsRead)) (talk_readOurFabricEntry ext ctx nodeId rfl) (by simp) w).run_bind
    (fun entry tr w₁ hnone => ?_) fun e tr w₁ hnone => ?_
  · obtain ⟨label, index⟩ := entry
    cases index with
    | none =>
        refine traces_run_throw.mpr ?_
        rw [List.append_nil]
        exact ⟨⟨fun h => (by cases h), fun h => absurd h (hnone _)⟩, fun k _ => hnone k⟩
    | some index =>
        refine (silent (R := (· = .removeFabric index))
          (talk_request ext ctx nodeId _ _ rfl) (by simp) w₁).run_bind (fun status tr₁ w₂ hnone₁ => ?_)
          fun e tr₁ w₂ hnone₁ => ?_
        · refine (complete_traces nodeId _ w₂).mono fun r tr₂ w₃ h => ?_
          simp only [acknowledged_append, hnone, hnone₁, false_or]
          exact h
        · simp only [acknowledged_append, hnone, hnone₁, or_false]
          exact ⟨⟨fun h => (by cases h), False.elim⟩, fun _ _ => not_false⟩
  · exact ⟨⟨fun h => (by cases h), fun h => absurd h (hnone _)⟩, fun k _ => hnone k⟩

end OneDevice

/-! ## One target -/

theorem OnFiles.noComplete {c : Call} (h : OnFiles c) : NoComplete c := by
  unfold OnFiles at h
  split at h <;> trivial

section OneTarget

variable {ext : Externals} {plan : (c : Call) → c.Move → Prop} {ctx : Ctx}

/-- What a step says of its target, beside what the devices said. -/
structure Told (nodeId : NodeId) (tr : List (Event (planned ext plan))) (outcome : DecommissionOutcome) :
    Prop where
  id : outcome.nodeId = nodeId
  success : outcome.success = true ↔ Acknowledged nodeId tr
  error : outcome.success = false → outcome.error.isSome = true
  others : ∀ k, k ≠ nodeId → ¬ Acknowledged k tr

/-- **One target.**  The outcome is a success exactly if the device's response was acknowledged. -/
theorem decommissionStep_traces (nodeId : NodeId) (w : World) :
    Traces (planned ext plan) (DecommissionOp.step ext ctx nodeId).run
      (fun r tr _ => ∀ outcome, r = .ok outcome → Told nodeId tr outcome) w := by
  have silent : ∀ {α : Type} {x : Action α}, x.run.Uses NoComplete →
      ∀ w, Traces (planned ext plan) x.run (fun _ tr _ => ∀ k, ¬ Acknowledged k tr) w := fun hx w =>
    (Traces.of_uses hx w).mono fun _ _ _ h => not_acknowledged_of_noComplete h
  refine Traces.attempt_bind (decommissionOne_traces nodeId w) ?_
  rintro r tr w₁ ⟨hr, others⟩
  cases r with
  | ok u =>
      refine (silent ((onFiles_removeDevice ext nodeId).mono fun _ => OnFiles.noComplete) w₁).run_bind
        (fun _ tr' w₂ hnone => traces_run_pure.mpr ?_) fun e tr' w₂ _ => nofun
      rintro outcome ⟨⟩
      simp only [List.append_nil]
      refine ⟨rfl, ?_, fun h => (by cases h), fun k hk => ?_⟩
      · simp [hnone, ← hr]
      · simp [hnone, others k hk]
  | error e =>
      refine (silent (uses_ask (by trivial)) w₁).run_bind (fun _ tr' w₂ hnone => traces_run_pure.mpr ?_)
        fun e tr' w₂ _ => nofun
      rintro outcome ⟨⟩
      simp only [List.append_nil]
      refine ⟨rfl, ?_, fun _ => rfl, fun k hk => ?_⟩
      · simp [hnone, ← hr]
      · simp [hnone, others k hk]

/-- Without faults on this side, the target's record goes exactly if the outcome is a success. -/
theorem decommissionStep_spec (smooth : Smooth plan) (nodeId : NodeId) (w : World) :
    Safe (planned ext plan) (fun _ => True) (DecommissionOp.step ext ctx nodeId).run
      (fun r w' => ∃ outcome, r = .ok outcome ∧ outcome.nodeId = nodeId ∧
        w'.record ext = if outcome.success then Function.update (w.record ext) nodeId none
          else w.record ext) w := by
  refine Safe.attempt_bind (safe_talk (talk_decommissionOne ext ctx nodeId) w)
    (fun _ _ => trivial) ?_
  rintro r w₁ h₁ -
  have before : w₁.record ext = w.record ext := record_same h₁
  cases r with
  | ok u =>
      refine (removeDevice_record smooth nodeId w₁).run_bind (fun _ _ => trivial) (fun _ w₂ _ made => ?_)
        fun e w₂ _ made => (by cases made.1)
      refine safe_run_pure.mpr ⟨trivial, _, rfl, rfl, ?_⟩
      obtain ⟨-, others, gone⟩ := made
      funext k
      rw [if_pos rfl, ← before]
      by_cases hk : k = nodeId
      · subst hk
        rw [Function.update_self]
        exact gone
      · rw [Function.update_of_ne hk]
        exact others.record hk
  | error e =>
      refine (log_spec .error _ w₁).run_bind (fun _ _ => trivial) (fun _ w₂ h₂ _ => ?_)
        fun e w₂ _ h => (by cases h)
      refine safe_run_pure.mpr ⟨trivial, _, rfl, rfl, ?_⟩
      rw [if_neg (by simp), record_same h₂, before]

end OneTarget

/-! ## All targets -/

/-- A node is reported as removed. -/
def Removed (outcomes : List DecommissionOutcome) (nodeId : NodeId) : Prop :=
  ∃ outcome ∈ outcomes, outcome.nodeId = nodeId ∧ outcome.success = true

theorem not_removed_nil (nodeId : NodeId) : ¬ Removed [] nodeId := by
  rintro ⟨_, h, -⟩
  cases h

theorem removed_cons {outcome : DecommissionOutcome} {outcomes : List DecommissionOutcome} {nodeId : NodeId} :
    Removed (outcome :: outcomes) nodeId ↔
      outcome.nodeId = nodeId ∧ outcome.success = true ∨ Removed outcomes nodeId := by
  simp [Removed]

section AllTargets

variable {ext : Externals} {plan : (c : Call) → c.Move → Prop} {ctx : Ctx}

/-- What a run says of its targets, beside what the devices said. -/
structure AllTold (targets : List NodeId) (tr : List (Event (planned ext plan)))
    (outcomes : List DecommissionOutcome) : Prop where
  ids : outcomes.map (·.nodeId) = targets
  removed : ∀ nodeId, Removed outcomes nodeId ↔ Acknowledged nodeId tr
  errors : ∀ outcome ∈ outcomes, outcome.success = false → outcome.error.isSome = true

/-- What is told of the first target and of the others. -/
theorem Told.cons {nodeId : NodeId} {targets : List NodeId} {tr tr' : List (Event (planned ext plan))}
    {outcome : DecommissionOutcome} {outcomes : List DecommissionOutcome} (first : Told nodeId tr outcome)
    (rest : AllTold targets tr' outcomes) : AllTold (nodeId :: targets) (tr ++ tr') (outcome :: outcomes) where
  ids := by rw [List.map_cons, first.id, rest.ids]
  removed k := by
    rw [removed_cons, rest.removed, acknowledged_append, first.id, first.success]
    by_cases hk : k = nodeId
    · subst hk
      simp
    · simp [first.others k hk, Ne.symm hk]
  errors := List.forall_mem_cons.mpr ⟨first.error, rest.errors⟩

/-- By induction on the targets. -/
theorem decommissionRun_traces (targets : List NodeId) (w : World) :
    Traces (planned ext plan) (DecommissionOp.run ext ctx targets).run
      (fun r tr _ => ∀ outcomes, r = .ok outcomes → AllTold targets tr outcomes) w := by
  induction targets generalizing w with
  | nil =>
      refine traces_run_pure.mpr ?_
      rintro outcomes ⟨⟩
      refine ⟨rfl, fun k => ?_, List.forall_mem_nil _⟩
      simp [not_removed_nil]
  | cons nodeId targets ih =>
      refine (decommissionStep_traces nodeId w).run_bind (fun outcome tr w₁ first => ?_)
        fun e tr w₁ _ => nofun
      refine (ih w₁).run_bind (fun outcomes tr' w₂ rest => traces_run_pure.mpr ?_) fun e tr' w₂ _ => nofun
      rintro _ ⟨⟩
      rw [List.append_nil]
      exact (first outcome rfl).cons (rest outcomes rfl)

/-- The records of the nodes that are reported as removed are gone, and no others. -/
theorem decommissionRun_spec (smooth : Smooth plan) (targets : List NodeId) (w : World) :
    Safe (planned ext plan) (fun _ => True) (DecommissionOp.run ext ctx targets).run
      (fun r w' => ∃ outcomes, r = .ok outcomes ∧ ∀ nodeId,
        (Removed outcomes nodeId → w'.record ext nodeId = none) ∧
          (¬ Removed outcomes nodeId → w'.record ext nodeId = w.record ext nodeId)) w := by
  induction targets generalizing w with
  | nil =>
      refine safe_run_pure.mpr ⟨trivial, [], rfl, fun k => ?_⟩
      simp [not_removed_nil]
  | cons nodeId targets ih =>
      refine (decommissionStep_spec smooth nodeId w).run_bind (fun _ _ => trivial)
        (fun outcome w₁ _ first => ?_) fun e w₁ _ h => (by obtain ⟨_, hr, -⟩ := h; cases hr)
      obtain ⟨_, hr, hid, here⟩ := first
      obtain rfl := Except.ok.inj hr
      refine (ih w₁).run_bind (fun _ _ => trivial) (fun outcomes w₂ _ rest => ?_)
        fun e w₂ _ h => (by obtain ⟨_, hr, -⟩ := h; cases hr)
      obtain ⟨_, hr, later⟩ := rest
      obtain rfl := Except.ok.inj hr
      refine safe_run_pure.mpr ⟨trivial, _, rfl, fun k => ?_⟩
      rw [removed_cons, hid]
      by_cases hremoved : Removed outcomes k
      · simp [hremoved, (later k).1]
      · rw [(later k).2 hremoved, here]
        by_cases hk : nodeId = k
        · subst hk
          cases hs : outcome.success <;> simp [hremoved]
        · cases hs : outcome.success <;> simp [hremoved, hk, Function.update_of_ne (Ne.symm hk)]

end AllTargets

/-! ## What a report has to be -/

/-- In view of what the devices answered, the report is as it should be: one outcome for each target, and
of a node that did not answer RemoveFabric with status OK only failures, each with an error, and its record
is as it was. -/
def Honest {ext : Externals} {plan : (c : Call) → c.Move → Prop} (targets : List NodeId) (w : World)
    (r : Except Failure (List DecommissionOutcome)) (tr : List (Event (planned ext plan)))
    (w' : World) : Prop :=
  ∃ outcomes, r = .ok outcomes ∧ outcomes.map (·.nodeId) = targets ∧
    ∀ nodeId, ¬ AnsweredOk nodeId tr →
      (∀ outcome ∈ outcomes, outcome.nodeId = nodeId →
        outcome.success = false ∧ outcome.error.isSome = true) ∧
      w'.record ext nodeId = w.record ext nodeId

/-! ## Runs -/

namespace Scenario

/-- Devices answer RemoveFabric with this status. -/
def statusMove (status : UInt8) : (c : Call) → World → Option c.Move
  | .wire _ (.removeFabric _), w => some ⟨w.clock, some w.clock, .ok (.ok (.ok status))⟩
  | _, _ => none

theorem admits_statusMove (status : UInt8) (c : Call) (w : World) (m : c.Move)
    (h : statusMove status c w = some m) : (system reference).admits c w m := by
  unfold statusMove at h
  split at h
  · obtain rfl := Option.some.inj h
    refine ⟨le_rfl, ?_, fun _ _ => nofun⟩
    intro at_ hat
    obtain rfl := Option.some.inj hat
    exact ⟨le_rfl, le_rfl⟩
  · cases h

/-- A scenario in which devices answer RemoveFabric with a given status. -/
def statusScript (status : UInt8) : Script (system reference) :=
  (Scenario.script {}).override (statusMove status) (admits_statusMove status)

theorem faultless_statusScript (status : UInt8) (c : Call) (w : World) (h : Serves c) :
    Faultless c ((statusScript status).move c w).choice := by
  rcases h with h | h
  · unfold Talk Talks at h
    split at h <;> trivial
  · unfold OnFiles at h
    split at h <;> first | rfl | exact h.elim

/-- What comes of a decommission of node 1, with the calls that were made. -/
def removal (status : UInt8) : Except Failure (List DecommissionOutcome) × List Call :=
  (((statusScript status).play (DecommissionOp.run reference ctx [1]).run oneRegistered).1,
    ((statusScript status).trace (DecommissionOp.run reference ctx [1]).run oneRegistered).map (·.1))

/-- The call sends node 1 a RemoveFabric. -/
def removesNodeOne : Call → Bool
  | .wire 1 (.removeFabric _) => true
  | _ => false

theorem eq_of_removesNodeOne {c : Call} (h : removesNodeOne c = true) :
    ∃ index, c = .wire 1 (.removeFabric index) := by
  unfold removesNodeOne at h
  split at h
  · exact ⟨_, rfl⟩
  · cases h

theorem exists_of_sent {E : Environment World Call Call.Answer} {tr : List (Event E)}
    (sent : (tr.map (·.1)).any removesNodeOne = true) : ∃ index m, ⟨.wire 1 (.removeFabric index), m⟩ ∈ tr := by
  obtain ⟨c, hc, hsends⟩ := List.any_eq_true.mp sent
  obtain ⟨⟨c, m⟩, hm, rfl⟩ := List.mem_map.mp hc
  obtain ⟨index, rfl⟩ := eq_of_removesNodeOne hsends
  exact ⟨index, m, hm⟩

/-- A decommission of node 1 that reports a success after node 1 has answered with the given status. -/
theorem removal_of_oneRegistered (status : UInt8)
    (removed : (removal status).1 = .ok [{ nodeId := 1, success := true, error := none }])
    (sent : (removal status).2.any removesNodeOne = true) :
    ∃ tr w', Exec (planned reference faultless) (DecommissionOp.run reference ctx [1]).run oneRegistered tr
        (.done (.ok [{ nodeId := 1, success := true, error := none }])) w' ∧
      (∃ index m, ⟨.wire 1 (.removeFabric index), m⟩ ∈ tr) ∧
      ∀ index (m : Call.Move (.wire 1 (.removeFabric index))), ⟨.wire 1 (.removeFabric index), m⟩ ∈ tr →
        m.choice.reply = .ok (.ok (.ok status)) := by
  have hx := (statusScript status).exec_narrow (P := faultless) (serves_decommission reference ctx [1])
    (faultless_statusScript status) oneRegistered
  unfold removal at removed sent
  dsimp only at removed sent
  rw [removed] at hx
  refine ⟨_, _, hx, exists_of_sent sent, fun index m hm => ?_⟩
  obtain ⟨w', hmove⟩ := (statusScript status).moves _ _ _ hm
  obtain rfl : m = (statusScript status).move (.wire 1 (.removeFabric index)) w' := hmove
  rfl

end Scenario

/-- **What a decommission reports is right exactly if no refusal is acknowledged.**  For every target list
and whatever the devices answer, with nothing wrong on this side: the report is as it should be if and only
if each device whose response is acknowledged answered with status OK. -/
theorem decommission_honest_iff {ext : Externals} {ctx : Ctx} {plan : (c : Call) → c.Move → Prop}
    (smooth : Smooth plan) {targets : List NodeId} {w w' : World}
    {tr : List (Event (planned ext plan))} {r : Except Failure (List DecommissionOutcome)}
    (hx : Exec (planned ext plan) (DecommissionOp.run ext ctx targets).run w tr (.done r) w') :
    Honest targets w r tr w' ↔ ∀ nodeId, Acknowledged nodeId tr → AnsweredOk nodeId tr := by
  obtain ⟨outcomes, rfl, records⟩ := (decommissionRun_spec smooth targets w).result hx
  have told := (decommissionRun_traces targets w).result hx outcomes rfl
  constructor
  · rintro ⟨_, hr, -, honest⟩ nodeId acknowledged
    obtain rfl := Except.ok.inj hr
    by_contra refused
    obtain ⟨outcome, hmem, hid, success⟩ := (told.removed nodeId).mpr acknowledged
    have failure := ((honest nodeId refused).1 outcome hmem hid).1
    rw [success] at failure
    cases failure
  · intro obedient
    refine ⟨outcomes, rfl, told.ids, fun nodeId refused => ?_⟩
    have kept : ¬ Removed outcomes nodeId := fun h =>
      refused (obedient nodeId ((told.removed nodeId).mp h))
    refine ⟨fun outcome hmem hid => ?_, (records nodeId).2 kept⟩
    have failure : outcome.success = false := by
      rw [← Bool.not_eq_true]
      exact fun success => kept ⟨outcome, hmem, hid, success⟩
    exact ⟨failure, told.errors outcome hmem failure⟩

open Scenario in
/-- **A device that still holds the fabric is forgotten.**  Node 1 answers RemoveFabric with status 11,
InvalidFabricIndex: it is reported as removed, and its record is gone. -/
theorem refused_removal_reported :
    ∃ tr w', Exec (planned reference faultless) (DecommissionOp.run reference ctx [1]).run oneRegistered tr
        (.done (.ok [{ nodeId := 1, success := true, error := none }])) w' ∧
      ¬ AnsweredOk 1 tr ∧ oneRegistered.record reference 1 = some {} ∧ w'.record reference 1 = none ∧
      ¬ Honest [1] oneRegistered (.ok [{ nodeId := 1, success := true, error := none }]) tr w' := by
  obtain ⟨tr, w', hx, -, answers⟩ :=
    removal_of_oneRegistered 11 (by decide +kernel) (by decide +kernel)
  have refused : ¬ AnsweredOk 1 tr := by
    rintro ⟨index, m, hm, hreply⟩
    rw [answers index m hm] at hreply
    cases hreply
  obtain ⟨outcomes, hr, records⟩ := (decommissionRun_spec (fun _ _ h => h) [1] oneRegistered).result hx
  obtain rfl := Except.ok.inj hr
  have after := (records 1).1 ⟨_, List.mem_singleton_self _, rfl, rfl⟩
  refine ⟨tr, w', hx, refused, record_oneRegistered, after, ?_⟩
  rintro ⟨_, -, -, honest⟩
  rw [(honest 1 refused).2, record_oneRegistered] at after
  cases after

open Scenario in
/-- A device that does answer with status OK. -/
theorem accepted_removal_honest :
    ∃ tr w', Exec (planned reference faultless) (DecommissionOp.run reference ctx [1]).run oneRegistered tr
        (.done (.ok [{ nodeId := 1, success := true, error := none }])) w' ∧
      AnsweredOk 1 tr ∧
      Honest [1] oneRegistered (.ok [{ nodeId := 1, success := true, error := none }]) tr w' := by
  obtain ⟨tr, w', hx, ⟨index, m, hm⟩, answers⟩ :=
    removal_of_oneRegistered 0 (by decide +kernel) (by decide +kernel)
  have accepted : AnsweredOk 1 tr := ⟨index, m, hm, answers index m hm⟩
  refine ⟨tr, w', hx, accepted, (decommission_honest_iff (fun _ _ h => h) hx).mpr fun nodeId h => ?_⟩
  have told := (decommissionRun_traces [1] oneRegistered).result hx _ rfl
  obtain ⟨outcome, hmem, rfl, -⟩ := (told.removed nodeId).mpr h
  obtain rfl := List.mem_singleton.mp hmem
  exact accepted

end MatterTimeCtl
