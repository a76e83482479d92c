/-
# MatterTimeCtl.Device.Labels — the labels that devices report to `inspect`.

An inspection reads of each device our own entry in its fabric table, and hands the label in it on as it was read.
So the labels that the devices report in a run are those of the outcomes that the run returns: nothing is lost and
nothing is added on the way (`invoke_labels`).  Only what the table says in its last row counts.
-/
import MatterTimeCtl.Main

namespace MatterTimeCtl

open Effect

/-! ## Reading the table -/

/-- The device reports a label for our fabric. -/
def ReportsLabel (label : String) : (c : Call) → c.Move → Prop
  | .wire _ .fabricsRead, m => ∃ items index, m.choice.reply = .ok (.ok items) ∧
    lastFabricEntry items (none, none) = .ok (some label, index)
  | _, _ => False

/-- A call that does not read a fabric table. -/
def NoTable : Call → Prop
  | .wire _ .fabricsRead => False
  | _ => True

theorem not_reportsLabel {c : Call} (h : NoTable c) (label : String) (m : c.Move) : ¬ ReportsLabel label c m := by
  intro reports
  unfold ReportsLabel at reports
  split at reports
  · exact h
  · exact reports

theorem Dials.noTable {c : Call} (h : Dials c) : NoTable c := by
  unfold Dials at h
  split at h <;> trivial

theorem Outside.noTable {c : Call} (h : Outside c) : NoTable c := by
  unfold Outside at h
  split at h <;> trivial

theorem Logs.noTable {c : Call} (h : Logs c) : NoTable c := by
  unfold Logs at h
  split at h
  · trivial
  · exact h.elim

theorem Talks.noTable {R : Request → Prop} {c : Call} (hR : ¬ R .fabricsRead) (h : Talks R c) : NoTable c := by
  unfold NoTable
  split
  · exact hR h
  · trivial

theorem mayEnsure_noTable : MayEnsure NoTable where
  readDevices := trivial
  findIdentity := trivial
  readIdentity := trivial
  storeIdentity := ⟨trivial, trivial, fun _ => trivial, trivial, trivial⟩
  storeKey _ := ⟨trivial, trivial, fun _ => trivial, trivial, trivial⟩
  removeKey _ := trivial
  crypto _ := trivial
  fill _ := trivial
  warn _ := trivial

section Labels

variable {ext : Externals} {plan : (c : Call) → c.Move → Prop}

/-- A device reported the label in this run. -/
def LabelRead (label : String) (tr : List (Event (planned ext plan))) : Prop := ∃ e ∈ tr, ReportsLabel label e.1 e.2

theorem labelRead_append {label : String} {tr tr' : List (Event (planned ext plan))} :
    LabelRead label (tr ++ tr') ↔ LabelRead label tr ∨ LabelRead label tr' := by
  simp only [LabelRead, List.mem_append, or_and_right, exists_or]

theorem not_labelRead {tr : List (Event (planned ext plan))} (h : ∀ e ∈ tr, NoTable e.1) (label : String) :
    ¬ LabelRead label tr := by
  rintro ⟨e, he, reports⟩
  exact not_reportsLabel (h e he) label e.2 reports

/-! ## What is handed on -/

variable {α β : Type}

/-- The labels that were read are those in the value that is returned, `has` saying which labels a value has. -/
def HandsOn (has : α → String → Prop) (r : Except Failure α) (tr : List (Event (planned ext plan))) (_ : World) :
    Prop :=
  ∀ label, LabelRead label tr ↔ ∃ a, r = .ok a ∧ has a label

/-- A failure hands nothing on. -/
theorem handsOn_error {has : α → String → Prop} {e : Failure} {tr : List (Event (planned ext plan))} {w : World} :
    HandsOn has (.error e) tr w ↔ ∀ label, ¬ LabelRead label tr := by
  refine forall_congr' fun label => ?_
  simp [reduceCtorEq]

theorem handsOn_ok {has : α → String → Prop} {a : α} {tr : List (Event (planned ext plan))} {w : World} :
    HandsOn has (.ok a) tr w ↔ ∀ label, LabelRead label tr ↔ has a label := by
  refine forall_congr' fun label => ?_
  simp

/-- What was done before without reading a table does not matter. -/
theorem handsOn_append {has : α → String → Prop} {r : Except Failure α} {tr tr' : List (Event (planned ext plan))}
    {w : World} (unread : ∀ label, ¬ LabelRead label tr) : HandsOn has r (tr ++ tr') w ↔ HandsOn has r tr' w := by
  refine forall_congr' fun label => ?_
  rw [labelRead_append, or_iff_right (unread label)]

/-- A part that reads no table, before one that may. -/
theorem handsOn_after {has : β → String → Prop} {x : Action α} (silent : x.run.Uses NoTable) {f : α → Action β}
    (next : ∀ a w', Traces (planned ext plan) (f a).run (HandsOn has) w') (w : World) :
    Traces (planned ext plan) (x >>= f).run (HandsOn has) w := by
  refine (Traces.of_uses silent w).run_bind ?_ ?_
  · intro a tr w' unread
    simp only [handsOn_append (not_labelRead unread)]
    exact next a w'
  · intro e tr w' unread
    exact handsOn_error.mpr (not_labelRead unread)

/-- What goes on with the value and reads nothing more. -/
theorem handsOn_pure {has : α → String → Prop} {has' : β → String → Prop} {x : Action α} {g : α → β}
    (same : ∀ a label, has' (g a) label ↔ has a label) {w : World}
    (h : Traces (planned ext plan) x.run (HandsOn has) w) :
    Traces (planned ext plan) (x >>= fun a => pure (g a)).run (HandsOn has') w := by
  refine h.run_bind ?_ ?_
  · intro a tr w' handed
    refine traces_run_pure.mpr (handsOn_ok.mpr fun label => ?_)
    rw [List.append_nil, handsOn_ok.mp handed label, same]
  · intro e tr w' handed
    exact handsOn_error.mpr (handsOn_error.mp handed)

/-! ## One device -/

section OneDevice

variable (ctx : Ctx)

theorem readOurFabricEntry_labels (nodeId : NodeId) (w : World) :
    Traces (planned ext plan) (readOurFabricEntry ext ctx nodeId).run
      (HandsOn fun entry label => entry.1 = some label) w := by
  unfold readOurFabricEntry request
  simp only [bind_assoc]
  refine handsOn_after ((dials_connect ext ctx nodeId).mono fun _ => Dials.noTable) (fun exchange w' => ?_) w
  rw [Effect.run_bind, run_ask, Program.call_bind, traces_call]
  rintro ⟨later, processed, reply⟩ -
  have read : ∀ label, LabelRead label [(⟨.wire exchange .fabricsRead, ⟨later, processed, reply⟩⟩ :
      Event (planned ext plan))] ↔ ∃ items index, reply = .ok (.ok items) ∧
        lastFabricEntry items (none, none) = .ok (some label, index) := by
    intro label
    simp only [LabelRead, List.mem_singleton, exists_eq_left]
    exact Iff.rfl
  -- no reply, a reply that is no table, and a table whose last row decides
  rcases reply with e | rows | items
  · refine traces_done.mpr (handsOn_error.mpr fun label told => ?_)
    obtain ⟨_, _, ⟨⟩, -⟩ := (read label).mp told
  · refine traces_done.mpr (handsOn_error.mpr fun label told => ?_)
    obtain ⟨_, _, ⟨⟩, -⟩ := (read label).mp told
  · refine traces_orFail.mpr fun label => ?_
    rw [read]
    show _ ↔ ∃ a, (lastFabricEntry items (none, none)).mapError _ = .ok a ∧ _
    constructor
    · rintro ⟨_, index, ⟨⟩, hlast⟩
      rw [hlast]
      exact ⟨_, rfl, rfl⟩
    · rintro ⟨⟨_, index⟩, hlast, rfl⟩
      exact ⟨items, index, rfl, eq_ok_of_mapError hlast⟩

/-- The label is the last thing that is read of a device. -/
theorem inspectOne_labels (nodeId : NodeId) (w : World) :
    Traces (planned ext plan) (inspectOne ext ctx nodeId).run
      (HandsOn fun o label => o.ourFabricLabel = some label) w := by
  have silent : ∀ {α : Type} {x : Action α}, x.run.Uses (Talks (· ≠ .fabricsRead)) → x.run.Uses NoTable :=
    fun h => h.mono fun _ => Talks.noTable (fun h => h rfl)
  refine handsOn_after (silent (talk_readDeviceNames ext ctx nodeId nofun nofun)) (fun (vendor, product) w₁ => ?_) w
  dsimp only
  refine handsOn_after (silent (talk_request ext ctx nodeId .featureMapRead _ nofun)) (fun featureMap w₂ => ?_) w₁
  refine handsOn_after (silent (talk_request ext ctx nodeId .utcTimeRead _ nofun)) (fun utcTime w₃ => ?_) w₂
  refine handsOn_after (silent (talk_request ext ctx nodeId .granularityRead _ nofun)) (fun granularity w₄ => ?_) w₃
  refine handsOn_after (silent (talk_readDstMax ext ctx nodeId _ nofun)) (fun dstMax w₅ => ?_) w₄
  exact handsOn_pure (fun _ _ => Iff.rfl) (readOurFabricEntry_labels ctx nodeId w₅)

/-- A device that cannot be inspected has no label in its outcome, and reported none. -/
theorem inspectStep_labels (nodeId : NodeId) (w : World) :
    Traces (planned ext plan) (InspectOp.step ext ctx nodeId).run
      (HandsOn fun o label => o.ourFabricLabel = some label) w := by
  refine (inspectOne_labels ctx nodeId w).attempt_bind fun r tr w₁ handed => ?_
  cases r with
  | ok o =>
      refine traces_run_pure.mpr (handsOn_ok.mpr fun label => ?_)
      rw [List.append_nil]
      exact handsOn_ok.mp handed label
  | error e =>
      -- what was read before the failure had no label in it, and logging reads nothing
      simp only [handsOn_append (handsOn_error.mp handed)]
      refine handsOn_after (uses_ask (c := .log .error _) trivial)
        (fun _ w₂ => traces_run_pure.mpr (handsOn_ok.mpr fun label => ?_)) w₁
      exact iff_of_false (not_labelRead (List.forall_mem_nil _) label) nofun

/-- By induction on the targets: each reports its own label, and an inspection does not fail. -/
theorem inspectRun_labels (targets : List NodeId) (w : World) :
    Traces (planned ext plan) (InspectOp.run ext ctx targets).run
      (HandsOn fun outcomes label => ∃ o ∈ outcomes, o.ourFabricLabel = some label) w := by
  induction targets generalizing w with
  | nil =>
      refine traces_run_pure.mpr (handsOn_ok.mpr fun label => ?_)
      refine iff_of_false (not_labelRead (List.forall_mem_nil _) _) ?_
      rintro ⟨o, ho, -⟩
      cases ho
  | cons nodeId targets ih =>
      refine (inspectStep_labels ctx nodeId w).run_bind ?_ ?_
      · intro o tr w₁ first
        have returns : FailsOnly (fun _ => False) (InspectOp.run ext ctx targets) :=
          failsOnly_inspectOp ext ctx targets
        refine ((ih w₁).and (Traces.of_returns returns w₁)).run_bind ?_ ?_
        · rintro outcomes tr' w₂ ⟨rest, -⟩
          refine traces_run_pure.mpr (handsOn_ok.mpr fun label => ?_)
          rw [List.append_nil, labelRead_append, handsOn_ok.mp first, handsOn_ok.mp rest]
          simp only [List.mem_cons, exists_eq_or_imp]
        · rintro e tr' w₂ ⟨-, fails⟩
          exact (fails e rfl).elim
      · intro e tr w₁ first
        exact handsOn_error.mpr (handsOn_error.mp first)

end OneDevice

/-! ## A run -/

section Run

variable (config : Config)

/-- Before the operation no table is read. -/
theorem runLocked_labels (targets : List NodeId) (w : World) :
    Traces (planned ext plan) (runLocked ext config (.inspect targets)).run
      (HandsOn fun outcomes label => ∃ o ∈ outcomes, o.ourFabricLabel = some label) w := by
  have pick : pickInterface.run.Uses NoTable := by
    refine uses_run_bind (uses_run_bind (uses_ask trivial) fun _ => uses_orFail _ _) fun all => ?_
    split
    · exact uses_run_pure _
    · exact uses_run_throw _
  refine handsOn_after ?_ (fun fabrics w₁ => ?_) w
  · exact uses_run_bind (uses_ask trivial) fun _ => uses_orFail _ _
  refine handsOn_after (mayEnsure_noTable.ensureFabric ext config fabrics)
    (fun (fabrics, fabIdx, identity) w₂ => ?_) w₁
  refine handsOn_after ?_ (fun _ w₃ => ?_) w₂
  · exact uses_run_bind (uses_ask trivial) fun _ => uses_orFail _ _
  refine handsOn_after pick (fun (_, _, interface) w₄ => ?_) w₃
  refine handsOn_after ?_ (fun _ w₅ => ?_) w₄
  · exact uses_run_bind (uses_ask trivial) fun _ => uses_orFail _ _
  exact inspectRun_labels { fabrics, fabIdx, identity, config } targets w₅

theorem noTable_lockStorage (op : Op) : (lockStorage config op).run.Uses NoTable := by
  refine uses_run_bind (uses_run_bind (uses_ask trivial) fun _ => uses_orFail _ _) fun _ =>
    uses_run_bind (uses_ask trivial) fun granted => ?_
  split
  · exact uses_run_throw _
  · exact uses_run_pure _

/-- The operation has returned: the lock was given back. -/
def OpReturned (tr : List (Event (planned ext plan))) : Prop := ∃ e ∈ tr, ∃ op result, e.1 = .unlock op result

theorem OpReturned.append {tr tr' : List (Event (planned ext plan))} (h : OpReturned tr') :
    OpReturned (tr ++ tr') := by
  obtain ⟨e, he, unlock⟩ := h
  exact ⟨e, List.mem_append_right _ he, unlock⟩

/-- A run that came to read a table has returned from its operation. -/
theorem run_opReturned (op : Op) (w : World) :
    Traces (planned ext plan) (run ext config op).run
      (fun _ tr _ => (∀ e ∈ tr, NoTable e.1) ∨ OpReturned tr) w := by
  have prepare := (outside_prepareStorageDir config).mono fun _ => Outside.noTable
  refine (Traces.of_uses prepare w).run_bind (fun _ before w₁ silent => ?_) fun _ _ _ silent => .inl silent
  refine (Traces.of_uses (noTable_lockStorage config op) w₁).run_bind (fun _ lock w₂ _ => ?_) ?_
  · refine (traces_trivial _ w₂).attempt_bind fun result during w₃ _ => ?_
    -- the lock is given back whatever the operation came to
    rw [Effect.run_bind, run_ask, Program.call_bind, traces_call]
    intro m _
    refine traces_orFail.mpr (.inr ?_)
    exact .append (.append (.append ⟨_, List.mem_singleton_self _, op, result, rfl⟩))
  · intro e lock w₂ silent'
    exact .inl fun e he => (List.mem_append.mp he).elim (silent e) (silent' e)

theorem run_labels (targets : List NodeId) (w : World) :
    Traces (planned ext plan) (run ext config (.inspect targets)).run
      (HandsOn fun outcomes label => ∃ o ∈ outcomes, o.ourFabricLabel = some label) w := by
  refine handsOn_after ((outside_prepareStorageDir config).mono fun _ => Outside.noTable) (fun _ w₁ => ?_) w
  refine handsOn_after (noTable_lockStorage config _) (fun _ w₂ => ?_) w₁
  refine (runLocked_labels config targets w₂).attempt_bind fun result tr w₃ handed => ?_
  -- giving the lock back hands the result on
  rw [Effect.run_bind, run_ask, Program.call_bind, traces_call]
  intro m _
  have unread : ∀ label, ¬ LabelRead label ([⟨.unlock (.inspect targets) result, m⟩] :
      List (Event (planned ext plan))) := not_labelRead (List.forall_mem_singleton.mpr trivial)
  refine traces_orFail.mpr fun label => ?_
  rw [labelRead_append, or_iff_left (unread label), handed label]
  cases result <;> exact Iff.rfl

/-! ## The command -/

/-- The labels in an output. -/
def Output.HasLabel : Output → String → Prop
  | .inspection nodes, label => ∃ o ∈ nodes, o.ourFabricLabel = some label
  | _, _ => False

theorem runInspect_labels (target : Option NodeId) (w : World) :
    Traces (planned ext plan) (runInspect ext config target).run (HandsOn Output.HasLabel) w := by
  have looks := (looks_resolveOrEmpty ext target).mono fun _ h => h.outside.noTable
  refine handsOn_after looks (fun targets w₁ => ?_) w
  split
  · refine traces_run_pure.mpr (handsOn_ok.mpr fun label => ?_)
    refine iff_of_false (not_labelRead (List.forall_mem_nil _) label) ?_
    rintro ⟨o, ho, -⟩
    cases ho
  · exact handsOn_pure (fun _ _ => Iff.rfl) (run_labels config targets w₁)

theorem runInspect_opReturned (target : Option NodeId) (w : World) :
    Traces (planned ext plan) (runInspect ext config target).run
      (fun _ tr _ => (∀ e ∈ tr, NoTable e.1) ∨ OpReturned tr) w := by
  have looks := (looks_resolveOrEmpty ext target).mono fun _ h => h.outside.noTable
  refine (Traces.of_uses looks w).run_bind (fun targets before w₁ silent => ?_) fun _ _ _ silent => .inl silent
  have settled : ∀ {during : List (Event (planned ext plan))}, (∀ e ∈ during, NoTable e.1) ∨ OpReturned during →
      (∀ e ∈ before ++ during, NoTable e.1) ∨ OpReturned (before ++ during) := by
    rintro during (silent' | returned)
    · exact .inl fun e he => (List.mem_append.mp he).elim (silent e) (silent' e)
    · exact .inr returned.append
  split
  · exact traces_run_pure.mpr (settled (.inl (List.forall_mem_nil _)))
  · refine (run_opReturned config (.inspect targets) w₁).run_bind ?_ fun _ _ _ h => settled h
    intro nodes during w₂ h
    rw [traces_run_pure, List.append_nil]
    exact settled h

end Run

/-- A device reported the label, and the inspection came to its end. -/
def LabelReported (label : String) (tr : List (Event (planned ext plan))) : Prop :=
  LabelRead label tr ∧ OpReturned tr

/-- **The labels of an inspection** are in its output, and no others are. -/
theorem invoke_labels {check : CheckDigit} {config : Config} {warnings : List String} {target : Option NodeId}
    {w w' : World} {tr : List (Event (planned ext plan))} {result : Except Failure Output}
    (h : Exec (planned ext plan) (invoke ext check config warnings (.inspect target)).run w tr
      (.done (.ok result)) w') (label : String) :
    LabelReported label tr ↔ ∃ output, result = .ok output ∧ output.HasLabel label := by
  obtain ⟨result', during, w₁, hresult, around, handed, returned⟩ := (traces_invoke
    (R := fun r tr w => HandsOn Output.HasLabel r tr w ∧ ((∀ e ∈ tr, NoTable e.1) ∨ OpReturned tr)) fun w₁ _ =>
      (runInspect_labels config target w₁).and (runInspect_opReturned config target w₁)).result h
  cases hresult
  rw [← handed label]
  -- the log lines before and after the command read no table and give no lock back
  have read : LabelRead label tr ↔ LabelRead label during :=
    around.exists_iff fun e logs => not_reportsLabel logs.noTable label e.2
  have unlocks : OpReturned tr ↔ OpReturned during := by
    refine around.exists_iff fun e logs unlock => ?_
    obtain ⟨op, result, heq⟩ := unlock
    rw [heq] at logs
    exact logs
  rw [LabelReported, read, unlocks]
  refine ⟨And.left, fun told => ⟨told, returned.resolve_left fun silent => ?_⟩⟩
  exact not_labelRead silent label told

end Labels

end MatterTimeCtl
