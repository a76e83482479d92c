/-
# MatterTimeCtl.Batch.Sync — what a sync reports, records, prints and exits with.

An outcome is a record of many fields, and four places go by different ones: the registry by `success`, the
exit code by `success` and `skipped`, the human rendering by `error` and `skipped`.  They agree because the
outcomes that `syncOne` and the loop around it make are of three kinds only, `Succeeded`, `Skipped` and
`Failed`.

Writing the registry decides whether there is a report at all.  Reading it decides what the report leaves
behind: each change rewrites the whole file from what could be read of it, so that a devices.json that cannot be
read just now loses the records of all other nodes (`unread_registry_forgets`).
-/
import MatterTimeCtl.Storage.WriteFault

namespace MatterTimeCtl

open Files Effect Text

/-! ## The kinds of outcomes -/

namespace SyncOutcome

/-- The clock was set and read back within the tolerance. -/
structure Succeeded (o : SyncOutcome) : Prop where
  success : o.success = true
  skipped : o.skipped = false
  error : o.error = none
  verified : o.verified = true
  delta : ∃ d, o.deltaAfterMicros = some d ∧ (d.natAbs : Int) ≤ verifyToleranceMicros

/-- Nothing was set, for the reason given. -/
structure Skipped (o : SyncOutcome) : Prop where
  success : o.success = false
  skipped : o.skipped = true
  reason : o.error.isSome = true

/-- An attempt that did not get through, with its error. -/
structure Failed (o : SyncOutcome) : Prop where
  success : o.success = false
  skipped : o.skipped = false
  error : o.error.isSome = true

/-- An outcome of exactly one kind. -/
inductive OneKind (o : SyncOutcome) : Prop where
  | succeeded (is : o.Succeeded) (notSkipped : ¬ o.Skipped) (notFailed : ¬ o.Failed)
  | skipped (is : o.Skipped) (notSucceeded : ¬ o.Succeeded) (notFailed : ¬ o.Failed)
  | failed (is : o.Failed) (notSucceeded : ¬ o.Succeeded) (notSkipped : ¬ o.Skipped)

variable {o : SyncOutcome}

theorem Succeeded.not_skipped (h : o.Succeeded) : ¬ o.Skipped := fun h' => by
  have := h.skipped.symm.trans h'.skipped
  cases this

theorem Succeeded.not_failed (h : o.Succeeded) : ¬ o.Failed := fun h' => by
  have := h.success.symm.trans h'.success
  cases this

theorem Skipped.not_failed (h : o.Skipped) : ¬ o.Failed := fun h' => by
  have := h.skipped.symm.trans h'.skipped
  cases this

theorem Succeeded.oneKind (h : o.Succeeded) : o.OneKind := .succeeded h h.not_skipped h.not_failed

theorem Skipped.oneKind (h : o.Skipped) : o.OneKind :=
  .skipped h (fun h' => h'.not_skipped h) h.not_failed

theorem Failed.oneKind (h : o.Failed) : o.OneKind :=
  .failed h (fun h' => h'.not_failed h) fun h' => h'.not_failed h

theorem failed_failed (nodeId : NodeId) (error : String) : (failed nodeId error).Failed := ⟨rfl, rfl, rfl⟩

theorem skipped_skippedWith (nodeId : NodeId) (reason : String) : (skippedWith nodeId reason).Skipped :=
  ⟨rfl, rfl, rfl⟩

/-- The kinds are told apart by two flags. -/
theorem OneKind.failed_iff (h : o.OneKind) : o.Failed ↔ (o.success || o.skipped) = false := by
  cases h with
  | succeeded is _ notFailed => simp [notFailed, is.success]
  | skipped is _ notFailed => simp [notFailed, is.skipped]
  | failed is _ _ => simp [is, is.success, is.skipped]

end SyncOutcome

/-! ## What `syncOne` returns -/

section SyncOne

variable (ext : Externals) (ctx : Ctx)

theorem verifyToleranceMicros_bound {a : ClockAssessment}
    (h : a.withinTolerance verifyToleranceMicros = true) :
    ∃ d, a.effectiveDeltaMicros = some d ∧ (d.natAbs : Int) ≤ verifyToleranceMicros := by
  unfold ClockAssessment.withinTolerance at h
  split at h
  · cases h
  · exact ⟨_, ‹_›, of_decide_eq_true h⟩

/-- A verified clock is within the tolerance. -/
theorem returns_verifyClock (nodeId : NodeId) (utcWrite : MatterMicros) :
    (verifyClock ext ctx nodeId utcWrite).run.Returns fun r => ∀ a, r = .ok a →
      a.withinTolerance verifyToleranceMicros = true := by
  refine returns_run_bind ((Program.returns_trivial _).mono fun _ _ _ _ _ => error_ne_ok) fun after => ?_
  dsimp only
  split
  · exact Program.returns_done.mpr fun _ => error_ne_ok
  · rename_i accepted
    refine Program.returns_done.mpr fun a h => ?_
    cases h
    simpa using accepted

/-- **One sync** returns a success or a skip, or an error. -/
theorem returns_syncOne (nodeId : NodeId) (manualTime : Option MatterMicros) :
    (syncOne ext ctx nodeId manualTime).run.Returns fun r => ∀ o, r = .ok o →
      o.nodeId = nodeId ∧ (o.Succeeded ∨ o.Skipped) := by
  have fails : ∀ {β : Type} {p : Prog (Except Failure β)}, p.Returns fun r => ∀ e, r = .error e →
      ∀ o, (.error e : Except Failure SyncOutcome) = .ok o → o.nodeId = nodeId ∧ (o.Succeeded ∨ o.Skipped) :=
    fun {_ p} => (Program.returns_trivial p).mono fun _ _ _ _ _ => error_ne_ok
  unfold syncOne
  refine returns_run_bind fails fun nowTs => returns_run_bind fails fun featureMap => ?_
  cases featureMap with
  | none =>
      refine Program.returns_done.mpr fun o h => ?_
      cases h
      exact ⟨rfl, .inr (SyncOutcome.skipped_skippedWith nodeId _)⟩
  | some featureMap =>
      refine returns_run_bind fails fun deviceBefore => returns_run_bind fails fun now =>
        returns_run_bind fails fun utcWrite => returns_run_bind fails fun written => ?_
      rw [Effect.run_bind]
      refine (returns_verifyClock ext ctx nodeId utcWrite).bind fun r accepted => ?_
      cases r with
      | error e => exact Program.returns_done.mpr fun _ => error_ne_ok
      | ok a =>
          obtain ⟨d, hd, bound⟩ := verifyToleranceMicros_bound (accepted a rfl)
          refine returns_run_bind fails fun _ => Program.returns_done.mpr fun o h => ?_
          cases h
          exact ⟨rfl, .inl ⟨rfl, rfl, rfl, rfl, d, hd, bound⟩⟩

end SyncOne

/-! ## The report -/

/-- A line that says that a node failed. -/
def FailedLine (line : String) : Prop := "  Result:       FAILED (".toList <+: line.toList

theorem failedLine_renderResult (o : SyncOutcome) :
    FailedLine (renderResult o) ↔ o.error.isSome = true ∧ o.skipped = false := by
  unfold renderResult FailedLine
  cases o.error with
  | none => simp
  | some error => cases o.skipped <;> simp

/-- The lines before the result say nothing of a failure. -/
theorem failedLine_renderSynced (o : SyncOutcome) :
    (∃ line ∈ renderSynced o, FailedLine line) ↔ FailedLine (renderResult o) := by
  constructor
  · rintro ⟨line, hmem, hfailed⟩
    simp only [renderSynced, List.mem_append, List.mem_singleton, Option.mem_toList, Option.map_eq_some_iff]
      at hmem
    rcases hmem with (((((rfl | ⟨_, -, rfl⟩) | ⟨_, -, rfl⟩) | ⟨_, -, rfl⟩) | hdst) | ⟨_, -, rfl⟩) | rfl
    · simp [FailedLine] at hfailed
    · simp [FailedLine] at hfailed
    · simp [FailedLine] at hfailed
    · simp [FailedLine] at hfailed
    · split at hdst
      · obtain rfl := List.mem_singleton.mp hdst
        simp [FailedLine] at hfailed
      · cases hdst
    · simp [FailedLine] at hfailed
    · exact hfailed
  · intro hfailed
    exact ⟨_, by simp [renderSynced], hfailed⟩

/-- Whether the run was admitted: by the NTP gate, or by the operator's time. -/
def Admitted (hostNtpSynchronized : Bool) (manualTime : Option String) : Prop :=
  hostNtpSynchronized = true ∨ manualTime.isSome = true

/-- The test on which `renderSync` returns before it prints anything. -/
def ReturnsEarly (hostNtpSynchronized : Bool) (manualTime : Option String) : Prop :=
  (!hostNtpSynchronized && manualTime.isNone) = true

theorem returnsEarly_iff (hostNtpSynchronized : Bool) (manualTime : Option String) :
    ReturnsEarly hostNtpSynchronized manualTime ↔ ¬ Admitted hostNtpSynchronized manualTime := by
  cases hostNtpSynchronized <;> cases manualTime <;> simp [ReturnsEarly, Admitted]

section Report

variable {outcomes : List SyncOutcome} (kinds : ∀ o ∈ outcomes, o.OneKind)
include kinds

/-- **The exit code** is success if the run was admitted and no outcome is failed. -/
theorem exitCode_sync (hostNtpSynchronized : Bool) (manualTime : Option String) :
    (Output.sync hostNtpSynchronized manualTime outcomes).exitCode = 0 ↔
      Admitted hostNtpSynchronized manualTime ∧ ∀ o ∈ outcomes, ¬ o.Failed := by
  have flags : outcomes.all (fun o => o.success || o.skipped) = true ↔ ∀ o ∈ outcomes, ¬ o.Failed := by
    rw [List.all_eq_true]
    refine forall₂_congr fun o ho => ?_
    rw [(kinds o ho).failed_iff, Bool.not_eq_false]
  rw [← flags, Output.exitCode, Admitted]
  split <;> simp_all

/-- **The rendering** of an admitted run says that a node failed if an outcome is failed. -/
theorem failedLine_renderSync {hostNtpSynchronized : Bool} {manualTime : Option String}
    (admitted : Admitted hostNtpSynchronized manualTime) :
    (∃ line ∈ renderSync hostNtpSynchronized manualTime outcomes, FailedLine line) ↔
      ∃ o ∈ outcomes, o.Failed := by
  have failed : ∀ o ∈ outcomes, (∃ line ∈ renderSynced o, FailedLine line) ↔ o.Failed := by
    intro o ho
    rw [failedLine_renderSynced, failedLine_renderResult]
    cases kinds o ho with
    | succeeded is _ notFailed => simp [notFailed, is.error]
    | skipped is _ notFailed => simp [notFailed, is.skipped]
    | failed is _ _ => simp [is, is.skipped, is.error]
  have goesOn : ¬ (!hostNtpSynchronized && manualTime.isNone) = true := fun h =>
    (returnsEarly_iff _ _).mp h admitted
  rw [renderSync, if_neg goesOn]
  constructor
  · rintro ⟨line, hmem, hfailed⟩
    rcases List.mem_append.mp hmem with hmem | hmem
    · obtain ⟨_, -, rfl⟩ := Option.map_eq_some_iff.mp (Option.mem_toList.mp hmem)
      simp [FailedLine] at hfailed
    · obtain ⟨o, ho, hmem⟩ := List.mem_flatMap.mp hmem
      exact ⟨o, ho, (failed o ho).mp ⟨line, hmem, hfailed⟩⟩
  · rintro ⟨o, ho, hfailed⟩
    obtain ⟨line, hmem, hline⟩ := (failed o ho).mpr hfailed
    exact ⟨line, List.mem_append_right _ (List.mem_flatMap.mpr ⟨o, ho, hmem⟩), hline⟩

end Report

/-! ## The registry -/

/-- The record of an attempt, before it is made. -/
def noteAttempt : Patch where
  run d := do
    let now ← ask .now
    return { d with lastAttemptedSync := some now }
  talks _ := uses_run_bind (uses_ask trivial) fun _ => uses_run_pure _
  succeeds _ := (Succeeds.ask _).bind fun _ => .pure _

/-- What is noted of an outcome reads the clock and nothing else. -/
def noteOutcome (outcome : SyncOutcome) : Patch where
  run := SyncOp.noteOutcome outcome
  talks := talk_noteOutcome outcome
  succeeds d := by
    unfold SyncOp.noteOutcome
    split
    · exact (Succeeds.ask _).bind fun _ => (Succeeds.ask _).bind fun _ => .pure _
    · exact .pure _

theorem succeeds_logOutcome (nodeId : NodeId) (error : Option String) :
    Succeeds (SyncOp.logOutcome nodeId error) := by
  cases error with
  | none => exact .pure ()
  | some error => exact .ask _

/-- What the record of a target becomes by a sync with this outcome; a record that is not there counts as
the empty one. -/
structure Noted (outcome : SyncOutcome) (old new : DeviceRecord) : Prop where
  attempted : new.lastAttemptedSync.isSome = true
  vendorName : new.vendorName = old.vendorName
  productName : new.productName = old.productName
  success : outcome.success = true → new.lastError = none ∧ new.lastSuccessfulSync.isSome = true ∧
    new.lastSuccessfulConnection.isSome = true
  otherwise : outcome.success = false → new.lastError = outcome.error ∧
    new.lastSuccessfulSync = old.lastSuccessfulSync ∧
    new.lastSuccessfulConnection = old.lastSuccessfulConnection

theorem yields_noteAttempt {old new : DeviceRecord} (h : (noteAttempt.run old).run.Yields (.ok new)) :
    ∃ now, new = { old with lastAttemptedSync := some now } := by
  obtain ⟨now, h⟩ := h
  exact ⟨now, (Except.ok.inj h).symm⟩

theorem yields_noteOutcome {outcome : SyncOutcome} {old new : DeviceRecord}
    (h : ((noteOutcome outcome).run old).run.Yields (.ok new)) :
    if outcome.success then ∃ synced connected, new = { old with
        lastSuccessfulSync := some synced, lastSuccessfulConnection := some connected, lastError := none }
      else new = { old with lastError := outcome.error } := by
  have h : (SyncOp.noteOutcome outcome old).run.Yields (.ok new) := h
  unfold SyncOp.noteOutcome at h
  split at h
  · rename_i success
    obtain ⟨synced, connected, h⟩ := h
    rw [if_pos success]
    exact ⟨synced, connected, (Except.ok.inj h).symm⟩
  · rename_i failure
    rw [if_neg failure]
    exact (Except.ok.inj h).symm

/-- The two patches of a sync, one after the other. -/
theorem noted_of_yields {outcome : SyncOutcome} {old attempted new : DeviceRecord}
    (first : (noteAttempt.run old).run.Yields (.ok attempted))
    (second : ((noteOutcome outcome).run attempted).run.Yields (.ok new)) : Noted outcome old new := by
  obtain ⟨now, rfl⟩ := yields_noteAttempt first
  have second := yields_noteOutcome second
  split at second
  · rename_i success
    obtain ⟨synced, connected, rfl⟩ := second
    exact ⟨rfl, rfl, rfl, fun _ => ⟨rfl, rfl, rfl⟩, fun failure => by rw [success] at failure; cases failure⟩
  · rename_i failure
    obtain rfl := second
    exact ⟨rfl, rfl, rfl, fun success => absurd success failure, fun _ => ⟨rfl, rfl, rfl⟩⟩

/-! ## One target -/

section OneTarget

variable {ext : Externals} {plan : (c : Call) → c.Move → Prop} {ctx : Ctx}

theorem oneKind_outcomeOf {nodeId : NodeId} {r : Except Failure SyncOutcome}
    (h : ∀ o, r = .ok o → o.nodeId = nodeId ∧ (o.Succeeded ∨ o.Skipped)) :
    (SyncOp.outcomeOf ext ctx nodeId r).nodeId = nodeId ∧ (SyncOp.outcomeOf ext ctx nodeId r).OneKind := by
  cases r with
  | error e => exact ⟨rfl, (SyncOutcome.failed_failed nodeId _).oneKind⟩
  | ok o =>
      obtain ⟨hid, h | h⟩ := h o rfl
      · exact ⟨hid, h.oneKind⟩
      · exact ⟨hid, h.oneKind⟩

/-- **One target.**  Whatever goes wrong, an outcome that is returned is that of the target, and of one kind. -/
theorem returns_syncStep (ext : Externals) (ctx : Ctx) (manualTime : Option MatterMicros) (nodeId : NodeId) :
    (SyncOp.step ext ctx manualTime nodeId).run.Returns fun r => ∀ o, r = .ok o →
      o.nodeId = nodeId ∧ o.OneKind := by
  have fails : ∀ {β : Type} {p : Prog (Except Failure β)}, p.Returns fun r => ∀ e, r = .error e →
      ∀ o : SyncOutcome, (.error e : Except Failure SyncOutcome) = .ok o → o.nodeId = nodeId ∧ o.OneKind :=
    fun {_ p} => (Program.returns_trivial p).mono fun _ _ _ _ _ => error_ne_ok
  refine returns_run_bind fails fun _ => ?_
  rw [run_attempt_bind]
  refine (returns_syncOne ext ctx nodeId manualTime).bind fun r hr => ?_
  refine returns_run_bind fails fun _ => returns_run_bind fails fun _ => Program.returns_done.mpr ?_
  intro o h
  obtain rfl := Except.ok.inj h
  exact oneKind_outcomeOf hr

/-- Without faults on this side the step returns an outcome, and that is what the registry notes. -/
theorem syncStep_spec (smooth : Smooth plan) (manualTime : Option MatterMicros) (nodeId : NodeId)
    (w : World) :
    Safe (planned ext plan) (fun _ => True) (SyncOp.step ext ctx manualTime nodeId).run
      (fun r w' => ∃ outcome, r = .ok outcome ∧ KeepsOthers ext nodeId w w' ∧
        ∃ record, Noted outcome ((w.record ext nodeId).getD {}) record ∧
          w'.record ext nodeId = some record) w := by
  refine (updateDevice_record smooth nodeId noteAttempt w).run_bind (fun _ _ => trivial)
    (fun _ w₁ _ attempted => ?_) fun e w₁ _ h => (by cases h.1)
  -- the attempt is noted first, so the record is there whatever happens to the sync
  obtain ⟨-, others₁, attempt, yields₁, record₁⟩ := attempted
  refine Safe.attempt_bind (safe_talk (talk_syncOne ext ctx nodeId manualTime) w₁) (fun _ _ => trivial) ?_
  rintro r w₂ h₂ -
  generalize SyncOp.outcomeOf ext ctx nodeId r = outcome
  refine (updateDevice_record smooth nodeId (noteOutcome outcome) w₂).run_bind (fun _ _ => trivial)
    (fun _ w₃ _ noted => ?_) fun e w₃ _ h => (by cases h.1)
  obtain ⟨-, others₃, record, yields₃, record₃⟩ := noted
  rw [record_same h₂, record₁, Option.getD_some] at yields₃
  refine ((safe_talk (talk_logOutcome nodeId outcome.error) w₃).and_returns
    (succeeds_logOutcome nodeId outcome.error)).run_bind (fun _ _ => trivial) (fun _ w₄ h₄ _ => ?_)
    fun e w₄ _ h => (by obtain ⟨-, _, h⟩ := h; cases h)
  refine safe_run_pure.mpr ⟨trivial, outcome, rfl, ?_, record, ?_, ?_⟩
  · exact ((others₁.trans (keepsOthers_same nodeId h₂)).trans others₃).trans (keepsOthers_same nodeId h₄)
  · exact noted_of_yields yields₁ yields₃
  · rw [record_same h₄, record₃]

theorem writeBound_logOutcome (nodeId : NodeId) (error : Option String) :
    WriteBound ext plan (SyncOp.logOutcome nodeId error) :=
  writeBound_of_talk (succeeds_logOutcome nodeId error) (talk_logOutcome nodeId error)

theorem writeBound_syncStep (manualTime : Option MatterMicros) (nodeId : NodeId) :
    WriteBound ext plan (SyncOp.step ext ctx manualTime nodeId) := by
  refine (writeBound_updateDevice nodeId noteAttempt).bind fun _ => ?_
  refine (writeBound_of_talk (succeeds_attempt _)
    (uses_attempt (talk_syncOne ext ctx nodeId manualTime))).bind fun r => ?_
  refine (writeBound_updateDevice nodeId (noteOutcome _)).bind fun _ => ?_
  exact (writeBound_logOutcome nodeId _).bind fun _ => writeBound_pure _

end OneTarget

/-! ## All targets -/

/-- What a run returns. -/
structure Reported (targets : List NodeId) (outcomes : List SyncOutcome) : Prop where
  ids : outcomes.map (·.nodeId) = targets
  kinds : ∀ outcome ∈ outcomes, outcome.OneKind

/-- What a node's record becomes by a sequence of outcomes. -/
inductive NotedAll : List SyncOutcome → Option DeviceRecord → Option DeviceRecord → Prop
  | nil {record : Option DeviceRecord} : NotedAll [] record record
  | cons {outcome : SyncOutcome} {outcomes : List SyncOutcome} {old last : Option DeviceRecord}
      {new : DeviceRecord} (first : Noted outcome (old.getD {}) new)
      (rest : NotedAll outcomes (some new) last) : NotedAll (outcome :: outcomes) old last

/-- What a run leaves in the registry: of each target the outcomes it had, of no other node anything. -/
structure Recorded (ext : Externals) (targets : List NodeId) (w : World) (outcomes : List SyncOutcome)
    (w' : World) : Prop where
  noted : ∀ nodeId, NotedAll (outcomes.filter (·.nodeId = nodeId)) (w.record ext nodeId)
    (w'.record ext nodeId)
  others : ∀ key, key ∉ targets.map nodeKey →
    (w'.registry ext).nodes[key]? = (w.registry ext).nodes[key]?

section AllTargets

variable {ext : Externals} {plan : (c : Call) → c.Move → Prop} {ctx : Ctx}

theorem Recorded.cons {nodeId : NodeId} {targets : List NodeId} {outcome : SyncOutcome}
    {outcomes : List SyncOutcome} {w w₁ w₂ : World} {record : DeviceRecord} (id : outcome.nodeId = nodeId)
    (others : KeepsOthers ext nodeId w w₁) (noted : Noted outcome ((w.record ext nodeId).getD {}) record)
    (stored : w₁.record ext nodeId = some record) (rest : Recorded ext targets w₁ outcomes w₂) :
    Recorded ext (nodeId :: targets) w (outcome :: outcomes) w₂ where
  noted k := by
    by_cases hk : k = nodeId
    · subst hk
      rw [List.filter_cons_of_pos (by simpa using id)]
      refine .cons noted ?_
      rw [← stored]
      exact rest.noted k
    · rw [List.filter_cons_of_neg (by simpa [id] using Ne.symm hk), ← others.record hk]
      exact rest.noted k
  others key hkey := by
    rw [List.map_cons, List.mem_cons, not_or] at hkey
    rw [rest.others key hkey.2, others key hkey.1]

/-- By induction on the targets. -/
theorem returns_syncRun (ext : Externals) (ctx : Ctx) (manualTime : Option MatterMicros)
    (targets : List NodeId) :
    (SyncOp.run ext ctx manualTime targets).run.Returns fun r => ∀ outcomes, r = .ok outcomes →
      Reported targets outcomes := by
  induction targets with
  | nil =>
      refine Program.returns_done.mpr fun outcomes h => ?_
      obtain rfl := Except.ok.inj h
      exact ⟨rfl, List.forall_mem_nil _⟩
  | cons nodeId targets ih =>
      unfold SyncOp.run
      rw [Effect.run_bind]
      refine (returns_syncStep ext ctx manualTime nodeId).bind fun r first => ?_
      cases r with
      | error e => exact Program.returns_done.mpr fun _ => error_ne_ok
      | ok outcome =>
          rw [continueWith_ok, Effect.run_bind]
          refine ih.bind fun r rest => ?_
          cases r with
          | error e => exact Program.returns_done.mpr fun _ => error_ne_ok
          | ok outcomes =>
              refine Program.returns_done.mpr fun _ h => ?_
              obtain rfl := Except.ok.inj h
              obtain ⟨id, kind⟩ := first outcome rfl
              have reported := rest outcomes rfl
              exact ⟨by rw [List.map_cons, id, reported.ids], List.forall_mem_cons.mpr ⟨kind, reported.kinds⟩⟩

/-- By induction on the targets, once more: what is left in the registry. -/
theorem syncRun_spec (smooth : Smooth plan) (manualTime : Option MatterMicros) (targets : List NodeId)
    (w : World) :
    Safe (planned ext plan) (fun _ => True) (SyncOp.run ext ctx manualTime targets).run
      (fun r w' => ∃ outcomes, r = .ok outcomes ∧ Recorded ext targets w outcomes w') w := by
  induction targets generalizing w with
  | nil => exact safe_run_pure.mpr ⟨trivial, [], rfl, fun _ => .nil, fun _ _ => rfl⟩
  | cons nodeId targets ih =>
      refine ((syncStep_spec smooth manualTime nodeId w).and_returns
        (returns_syncStep ext ctx manualTime nodeId)).run_bind (fun _ _ => trivial)
        (fun outcome w₁ _ first => ?_) fun e w₁ _ h => (by obtain ⟨⟨_, hr, -⟩, -⟩ := h; cases hr)
      obtain ⟨⟨_, hr, others, record, noted, stored⟩, returned⟩ := first
      obtain rfl := Except.ok.inj hr
      refine (ih w₁).run_bind (fun _ _ => trivial) (fun outcomes w₂ _ rest => ?_)
        fun e w₂ _ h => (by obtain ⟨_, hr, -⟩ := h; cases hr)
      obtain ⟨_, hr, rest⟩ := rest
      obtain rfl := Except.ok.inj hr
      exact safe_run_pure.mpr ⟨trivial, _, rfl, .cons (returned outcome rfl).1 others noted stored rest⟩

/-- A sync returns its outcomes exactly if no write failed. -/
theorem writeBound_syncRun (manualTime : Option MatterMicros) (targets : List NodeId) :
    WriteBound ext plan (SyncOp.run ext ctx manualTime targets) := by
  induction targets with
  | nil => exact writeBound_pure _
  | cons nodeId targets ih =>
      exact (writeBound_syncStep manualTime nodeId).bind fun _ => ih.bind fun _ => writeBound_pure _

/-- A run in which no read and no write failed is one in which nothing could have. -/
theorem recorded_of_exec {manualTime : Option MatterMicros} {targets : List NodeId} {w w' : World}
    {tr : List (Event (planned ext plan))} {outcomes : List SyncOutcome}
    (run : Exec (planned ext plan) (SyncOp.run ext ctx manualTime targets).run w tr (.done (.ok outcomes)) w')
    (written : NoWriteFailed tr) (read : NoReadFailed tr) : Recorded ext targets w outcomes w' := by
  have serves := (Traces.of_uses (serves_sync ext ctx manualTime targets) w).result run
  have run' := run.narrow (P := fun (c : Call) (m : c.Move) => Faultless c m.choice) fun e he =>
    faultless_of_serves (serves e he) (written e he) (read e he)
  have smooth : Smooth fun c m => plan c m ∧ Faultless c m.choice := fun _ _ h => h.2
  obtain ⟨_, hr, recorded⟩ := (syncRun_spec smooth manualTime targets w).result run'
  obtain rfl := Except.ok.inj hr
  exact recorded

end AllTargets

/-- **A sync's report agrees with what happened.**  For every target list and whatever the devices answer, as
long as no write of the registry fails, a run returns one outcome of one kind for each target, in order, and,
whatever the gate said, the exit code is success exactly if the run was admitted and no outcome is failed, which
is exactly when the rendering goes on and has no line that says that a node failed.  If no read of the registry
fails either, the registry notes the outcomes and nothing else. -/
theorem sync_report_agrees (ext : Externals) (ctx : Ctx) (plan : (c : Call) → c.Move → Prop)
    (manualTime : Option MatterMicros) (targets : List NodeId) {w w' : World}
    {tr : List (Event (planned ext plan))} {r : Except Failure (List SyncOutcome)}
    (run : Exec (planned ext plan) (SyncOp.run ext ctx manualTime targets).run w tr (.done r) w')
    (written : NoWriteFailed tr) :
    ∃ outcomes, r = .ok outcomes ∧ Reported targets outcomes ∧
      (NoReadFailed tr → Recorded ext targets w outcomes w') ∧
      ∀ ntp manual,
        ((Output.sync ntp manual outcomes).exitCode = 0 ↔
          Admitted ntp manual ∧ ∀ o ∈ outcomes, ¬ o.Failed) ∧
        ((Output.sync ntp manual outcomes).exitCode = 0 ↔
          ¬ ReturnsEarly ntp manual ∧ ∀ line ∈ renderSync ntp manual outcomes, ¬ FailedLine line) := by
  obtain ⟨outcomes, rfl⟩ := ((writeBound_syncRun manualTime targets w).result run).mpr written
  have reported := (Traces.of_returns (returns_syncRun ext ctx manualTime targets) w).result run outcomes rfl
  refine ⟨outcomes, rfl, reported, recorded_of_exec run written, fun ntp manual => ?_⟩
  have exit := exitCode_sync reported.kinds ntp manual
  refine ⟨exit, exit.trans ?_⟩
  rw [returnsEarly_iff, not_not]
  refine and_congr_right fun admitted => ?_
  have lines := not_congr (failedLine_renderSync reported.kinds admitted)
  push Not at lines
  exact lines.symm

/-! ### A registry that cannot be read -/

section Unread

variable {ext : Externals} {ctx : Ctx} {unreadable : Path → Bool} {nodeId other : NodeId}

/-- An update that cannot read devices.json leaves the node's own record in it and no other. -/
theorem unregistered_of_unread (unread : unreadable devicesPath = true) (hne : other ≠ nodeId) {w w₁ : World}
    (changed : RegistryChanged ext (storagePlan unreadable) w (Devices.Inserted nodeId) w₁) :
    Unregistered ext other w₁ := by
  obtain ⟨raw, devices, hraw, ⟨record, rfl⟩, rfl⟩ := changed
  obtain rfl := reads_storagePlan.mp hraw
  have nothing : registryOf ext (readUnder unreadable w.files devicesPath) = {} := registryUnder_unread unread
  rw [Unregistered, World.registry_put, nothing]
  simp only [Std.ExtTreeMap.mem_insert]
  rintro (same | found)
  · exact hne (nodeKey_injective (Std.LawfulEqCmp.eq_of_compare same).symm)
  · exact absurd found Std.ExtTreeMap.not_mem_empty

/-- The first update of a step drops the others, and nothing that follows brings one back. -/
theorem syncStep_forgets (unread : unreadable devicesPath = true) (manualTime : Option MatterMicros)
    (hne : other ≠ nodeId) (w : World) :
    Safe (planned ext (storagePlan unreadable)) (fun _ => True) (SyncOp.step ext ctx manualTime nodeId).run
      (fun r w' => (∃ outcome, r = .ok outcome) → Unregistered ext other w') w := by
  have stable : Stable (Unregistered ext other) := stable_unregistered other
  refine (updateDevice_spec nodeId talk_noteAttempt w).run_bind (fun _ _ => trivial)
    (fun _ w₁ _ settled => ?_) fun e w₁ _ _ => (fun ⟨_, h⟩ => by cases h)
  obtain ⟨w₂, changed, same⟩ := settled
  have dropped := stable same (unregistered_of_unread unread hne changed)
  exact (syncAttempt_keeps stable (fun _ _ _ => unregistered_of_unread unread hne) manualTime dropped).mono
    (fun _ _ => trivial) fun _ _ _ h _ => h

/-- **What a sync forgets** where devices.json cannot be read: every node that is not synced. -/
theorem sync_forgets (unread : unreadable devicesPath = true) (manualTime : Option MatterMicros)
    {nodeId : NodeId} {targets : List NodeId} (untargeted : other ∉ nodeId :: targets) (w : World) :
    Safe (planned ext (storagePlan unreadable)) (fun _ => True)
      (SyncOp.run ext ctx manualTime (nodeId :: targets)).run
      (fun r w' => (∃ outcomes, r = .ok outcomes) → Unregistered ext other w') w := by
  have survives : SurvivesChange ext (storagePlan unreadable) (Unregistered ext other) (nodeId :: targets)
      Devices.Inserted := fun n hn _ _ _ changed =>
    unregistered_of_unread unread (fun (h : other = n) => untargeted (h ▸ hn)) changed
  refine (syncStep_forgets unread manualTime (List.ne_of_not_mem_cons untargeted) w).run_bind
    (fun _ _ => trivial) (fun outcome w₁ _ first => ?_) fun e w₁ _ _ => (fun ⟨_, h⟩ => by cases h)
  have rest : Safe _ _ (SyncOp.run ext ctx manualTime targets).run _ w₁ :=
    syncOp_keeps (stable_unregistered other) manualTime survives.tail (first ⟨_, rfl⟩)
  exact (rest.run_bind (fun _ h => h) (fun _ w₂ h₂ _ => safe_run_pure.mpr ⟨h₂, h₂⟩) fun _ _ h _ => h).mono
    (fun _ _ => trivial) fun _ _ _ h _ => h

end Unread

namespace Scenario

/-- Every move of a script is one of the script's. -/
theorem noWriteFailed_of_moves {plan : (c : Call) → c.Move → Prop} (S : Script (planned reference plan))
    (spared : ∀ c w, ¬ FailedWrite c (S.move c w)) {α : Type} (p : Prog α) (w : World) :
    NoWriteFailed (S.trace p w) := fun e he => by
  obtain ⟨w', hmove⟩ := S.moves p w e he
  rw [hmove]
  exact spared e.1 w'

theorem not_failedWrite_move (s : Scenario) (c : Call) (w : World) : ¬ FailedWrite c (s.move c w) := by
  intro failed
  unfold FailedWrite at failed
  split at failed <;> first | exact failed | exact failed rfl

theorem not_failedRead_move (s : Scenario) (c : Call) (w : World) : ¬ FailedRead c (s.move c w) := by
  intro failed
  unfold FailedRead at failed
  split at failed <;> first | exact failed | exact failed rfl

end Scenario

open Scenario in
/-- Two nodes, of which one is not registered. -/
theorem two_syncs_reported :
    ∃ tr outcomes w', Exec anything (SyncOp.run reference ctx none [1, 2]).run oneRegistered tr
        (.done (.ok outcomes)) w' ∧
      Reported [1, 2] outcomes ∧ Recorded reference [1, 2] oneRegistered outcomes w' := by
  have run := (anyPlan {}).exec (SyncOp.run reference ctx none [1, 2]).run oneRegistered
  have written := noWriteFailed_of_moves (anyPlan {}) (not_failedWrite_move {})
    (SyncOp.run reference ctx none [1, 2]).run oneRegistered
  obtain ⟨outcomes, hr, reported, recorded, -⟩ :=
    sync_report_agrees reference ctx _ none [1, 2] run written
  rw [hr] at run
  refine ⟨_, outcomes, _, run, reported, recorded fun e he => ?_⟩
  obtain ⟨w', hmove⟩ := (anyPlan {}).moves _ _ e he
  rw [hmove]
  exact not_failedRead_move {} e.1 w'

namespace Scenario

/-- devices.json cannot be read just now. -/
abbrev unreadPlan : (c : Call) → c.Move → Prop := storagePlan fun p => decide (p = devicesPath)

/-- All goes well, but for that one file. -/
abbrev unreadScript : Script (planned reference unreadPlan) := storageScript {} fun p => decide (p = devicesPath)

theorem not_failedWrite_unread (c : Call) (w : World) : ¬ FailedWrite c (unreadScript.move c w) := by
  cases c with
  | file c =>
      cases c with
      | readToString p => exact not_false
      | _ => exact not_failedWrite_move {} _ w
  | _ => exact not_failedWrite_move {} _ w

end Scenario

open Scenario in
/-- **A sync forgets the other nodes.**  Node 1 is registered, devices.json cannot be read just now, and node 2 is
synced, with every write succeeding: node 1 is not in the registry any more. -/
theorem unread_registry_forgets :
    ∃ tr outcomes w', Exec (planned reference unreadPlan) (SyncOp.run reference ctx none [2]).run oneRegistered
        tr (.done (.ok outcomes)) w' ∧
      NoWriteFailed tr ∧ oneRegistered.record reference 1 = some {} ∧ w'.record reference 1 = none ∧
      ¬ Recorded reference [2] oneRegistered outcomes w' := by
  have run := unreadScript.exec (SyncOp.run reference ctx none [2]).run oneRegistered
  have written := noWriteFailed_of_moves unreadScript not_failedWrite_unread
    (SyncOp.run reference ctx none [2]).run oneRegistered
  obtain ⟨outcomes, hr⟩ := ((writeBound_syncRun none [2] oneRegistered).result run).mpr written
  rw [hr] at run
  have before : oneRegistered.record reference 1 = some {} := record_oneRegistered
  have untargeted : (1 : NodeId) ∉ [2] := by decide
  have forgotten := (sync_forgets (decide_eq_true rfl) none untargeted oneRegistered).result run ⟨_, rfl⟩
  have after : World.record reference _ 1 = none := Std.ExtTreeMap.getElem?_eq_none forgotten
  refine ⟨_, outcomes, _, run, written, before, after, fun recorded => ?_⟩
  -- node 1 is no target, so that it should have kept its record
  have kept := recorded.others (nodeKey 1) (by decide)
  change World.record _ _ 1 = World.record _ _ 1 at kept
  rw [after, before] at kept
  cases kept

end MatterTimeCtl
