/-
# MatterTimeCtl.Terminal — what devices can bring to the operator's terminal.

Whatever `inspect`, `commission` and `status` print has no control characters but the host's own, with one exception:
an inspection that is printed as JSON has the labels of the fabric tables in it as the devices report them, and JSON
keeps DEL and the C1 controls as they are.  `terminal_contained_iff` says this of every invocation, after any history
of commands that filled the registry with what other devices reported.
-/
import MatterTimeCtl.Rendering
import MatterTimeCtl.Storage.CleanRegistry
import MatterTimeCtl.Storage.Interleaving
import MatterTimeCtl.JsonMode

namespace MatterTimeCtl

open Files Effect Text

/-! ## What the commands return -/

section Commands

variable {own : Char → Prop} {ext : Externals} {config : Config} {plan : (c : Call) → c.Move → Prop}

/-- What is printed of a result is clean. -/
abbrev CleanResult (own : Char → Prop) (ext : Externals) (config : Config) (r : Except Failure Output) : Prop :=
  CleanOutput own (outputOf ext config r)

theorem cleanResult_of {r : Except Failure Output} (value : ∀ output, r = .ok output → CleanOutput own output)
    (error : ∀ e, r = .error e → RendersContained own ext config e) : CleanResult own ext config r := by
  cases r with
  | ok output => exact value output rfl
  | error e => exact error e rfl

/-- A run returns what its operation returns. -/
theorem delivers_run {op : Op} {P : op.Out → Prop}
    (operation : ∀ ctx, ctx.config = config → Delivers P (runOp ext ctx op)) : Delivers P (run ext config op) := by
  have locked : Delivers P (runLocked ext config op) :=
    delivers_bind fun _ => delivers_bind fun (_, _, _) => delivers_bind fun _ => delivers_bind fun (_, _, _) =>
      delivers_bind fun _ => operation _ rfl
  refine delivers_bind fun _ => delivers_bind fun _ => delivers_attempt_bind locked fun r hr => ?_
  refine delivers_bind fun _ => ?_
  cases r with
  | ok out => exact delivers_pure (hr out rfl)
  | error e => exact delivers_throw e

theorem delivers_runInspect (host : HostTexts own ext config) (target : Option NodeId) :
    Delivers (CleanOutput own) (runInspect ext config target) := by
  refine delivers_bind fun targets => ?_
  split
  · exact delivers_pure (List.forall_mem_nil _)
  · have nodes : Delivers (fun outcomes => ∀ o ∈ outcomes, CleanInspect own o) (run ext config (.inspect targets)) :=
      delivers_run fun ctx hctx => delivers_inspectOp (hctx ▸ host) targets
    exact nodes.bind fun outcomes clean => delivers_pure clean

theorem delivers_runCommission (onboarding : Onboarding) :
    Delivers (fun output => ∃ nodes, output = .commissioned nodes ∧ CleanOutput own output)
      (runCommission ext config onboarding) := by
  have commissioned : Delivers (fun o => CleanNames own (o.vendorName, o.productName))
      (run ext config (.commission onboarding)) :=
    delivers_run fun ctx _ => delivers_commissionOp ext ctx onboarding
  exact commissioned.bind fun o names => delivers_pure ⟨_, rfl, List.forall_mem_singleton.mpr names⟩

/-! ### Status -/

/-- What is listed of a clean registry is clean. -/
theorem CleanDevices.listNodes {devices : Devices} (h : CleanDevices own devices) (filter : Option NodeId) :
    ∀ n ∈ MatterTimeCtl.listNodes filter devices, CleanListing own n := by
  intro n hn
  obtain ⟨⟨key, record⟩, hentry, hlisting⟩ := List.mem_filterMap.mp hn
  have registered := Std.ExtTreeMap.mem_toList_iff_getElem?_eq_some.mp (List.mem_filter.mp hentry).1
  obtain ⟨nodeId, -, rfl⟩ := Option.map_eq_some_iff.mp hlisting
  have clean := h key record registered
  exact ⟨⟨clean.vendorName, clean.productName⟩, clean.lastError⟩

theorem delivers_identityStatus (ext : Externals) :
    Delivers (fun status => CleanIdentity own status.report) (identityStatus ext) := by
  refine delivers_bind fun identityExists => delivers_bind fun blobExists => ?_
  unfold classifyIdentity
  split
  · exact delivers_pure trivial
  · exact delivers_pure (contained_literal rfl)
  · exact delivers_pure (contained_literal rfl)
  · refine delivers_bind fun raw => ?_
    split
    · exact delivers_pure trivial
    · split
      · exact delivers_pure ⟨contained_u64 _, contained_u64 _⟩
      · exact delivers_pure trivial

theorem cleanConfig (host : HostTexts own ext config) : CleanConfig own (configReport config) where
  source := host.source
  storagePath := host.storagePath
  timezone := host.timezone
  logLevel := by
    show Contained own config.logLevel.display
    cases config.logLevel <;> exact contained_literal rfl
  fabricLabel := host.fabricLabel
  output := by
    show Contained own config.output.display
    cases config.output <;> exact contained_literal rfl

theorem runStatus_clean (host : HostTexts own ext config) (filter : Option NodeId) {w : World}
    (hw : CleanRegistry own ext w) :
    Safe (planned ext plan) (fun _ => True) (runStatus ext config filter).run
      (fun r _ => ∃ report, r = .ok (.status report) ∧ CleanStatus own report) w := by
  have reads : Safe (planned ext plan) (fun _ => True) (runStatus ext config filter).run
      (fun r _ => ∀ output, r = .ok output → ∃ report, output = .status report ∧ CleanStatus own report) w := by
    unfold runStatus
    refine Safe.ask_bind trivial fun m _ => ?_
    have h₁ : CleanRegistry own ext ((planned ext plan).next .now w m) :=
      stable_clean (quiet_next (by trivial) w m) hw
    refine (loadOrDefault_spec _).run_bind (fun _ _ => trivial) (fun devices w₂ _ read => ?_)
      fun _ _ _ read => by obtain ⟨_, hread, -⟩ := read; cases hread
    obtain ⟨raw, hraw, read⟩ := read
    obtain rfl := Except.ok.inj hraw
    have nodes := (read.clean h₁).listNodes filter
    refine safe_of_returns ?_ w₂
    have identified : Delivers (fun status => CleanIdentity own status.report) (identityStatus ext) :=
      delivers_identityStatus ext
    refine identified.bind fun identity hidentity => ?_
    refine delivers_bind fun initialized => delivers_bind fun ntp => delivers_bind fun micros => ?_
    refine delivers_pure ⟨_, rfl, cleanConfig host, hidentity, contained_utcOffset _, ?_, contained_nat _, nodes⟩
    intro d hd
    obtain ⟨⟨at_, before, after⟩, -, rfl⟩ := Option.map_eq_some_iff.mp hd
    exact host.timestampDisplay at_
  refine (reads.and_returns (succeeds_runStatus ext config filter)).mono (fun _ h => h) ?_
  rintro r w' - ⟨clean, output, rfl⟩
  obtain ⟨report, rfl, h⟩ := clean output rfl
  exact ⟨report, rfl, h⟩

/-! ### The three commands -/

def CliCommand.Inspects : CliCommand → Prop
  | .inspect _ => True
  | _ => False

/-- The command shows what devices say of themselves. -/
def CliCommand.Shows : CliCommand → Prop
  | .inspect _ | .commission _ | .status _ => True
  | .sync _ _ | .decommission _ => False

theorem contained_pairingCodeError (e : PairingCodeError) : Contained own e.display := by
  cases e with
  | badLength length =>
      exact ((contained_literal rfl).append (contained_nat length)).append (contained_literal rfl)
  | qrPayload | badCheckDigit | badPasscode => exact contained_literal rfl

/-- What they print is clean, and only an inspection has labels. -/
theorem command_clean {check : CheckDigit} {command : CliCommand} (host : HostTexts own ext config)
    (shows : command.Shows) {w : World} (hw : CleanRegistry own ext w) :
    Safe (planned ext plan) (fun _ => True) (runCliCommand ext check config command).run
      (fun r _ => CleanResult own ext config r ∧
        (¬ command.Inspects → ∀ label, ¬ (outputOf ext config r).HasLabel label)) w := by
  cases command with
  | status filter =>
      refine (runStatus_clean host filter hw).mono (fun _ h => h) ?_
      rintro r w' - ⟨report, rfl, clean⟩
      exact ⟨clean, fun _ _ => id⟩
  | inspect target =>
      -- what is printed of a failure is its rendering
      have fails : FailsOnly (RendersContained own ext config) (runInspect ext config target) := by
        refine (failsOnly_resolveOrEmpty host.failureClass ext target).bind fun targets => ?_
        split
        · exact failsOnly_pure _
        · exact (failsOnly_run host.runFailureClass (.inspect targets) fun ctx _ =>
            failsOnly_inspectOp ext ctx targets).bind fun _ => failsOnly_pure _
      refine (safe_of_returns (Program.Returns.and (delivers_runInspect host target) fails) w).mono
        (fun _ h => h) ?_
      rintro r w' - ⟨value, error⟩
      exact ⟨cleanResult_of value error, fun h => absurd trivial h⟩
  | commission pairingCode =>
      have command : Delivers (fun output => ∃ nodes, output = .commissioned nodes ∧ CleanOutput own output)
          (runCliCommand ext check config (.commission pairingCode)) :=
        delivers_bind fun onboarding => delivers_runCommission onboarding
      have fails : FailsOnly (RendersContained own ext config)
          (runCliCommand ext check config (.commission pairingCode)) := by
        refine FailsOnly.bind (failsOnly_orFail contained_pairingCodeError _) fun onboarding => ?_
        refine (failsOnly_run host.runFailureClass (.commission onboarding) fun ctx hctx => ?_).bind fun _ =>
          failsOnly_pure _
        exact (failsOnly_join host.failureClass ctx rendersContained_panicked onboarding).bind fun _ =>
          failsOnly_record host.failureClass ext ctx _
      refine (safe_of_returns (Program.Returns.and command fails) w).mono (fun _ h => h) ?_
      rintro r w' - ⟨value, error⟩
      refine ⟨cleanResult_of (fun output h => ?_) error, fun _ label hlabel => ?_⟩
      · obtain ⟨_, -, clean⟩ := value output h
        exact clean
      · cases r with
        | ok output =>
            obtain ⟨nodes, rfl, -⟩ := value output rfl
            exact hlabel
        | error e => exact hlabel
  | sync target time => exact shows.elim
  | decommission target => exact shows.elim

end Commands

/-! ## What is printed -/

section Printed

variable (x : ConfigExternals) (env : HostEnvironment)

/-- An inspection that is printed as JSON. -/
structure InspectsAsJson (cli : Cli) (contents : Except IoError String) : Prop where
  inspects : cli.command.Inspects
  json : cli.json = true ∨ ∃ c, cli.load x env contents = .ok c ∧ c.output = .json

variable {x env} {own : Char → Prop} {ext : Externals} {check : CheckDigit} {plan : (c : Call) → c.Move → Prop}
  {cli : Cli} {contents : Except IoError String} {w w₀ : World} {tr : List (Event (planned ext plan))} {o : Outcome}

theorem hasLabel_outputOf {config : Config} {r : Except Failure Output} {label : String} :
    (outputOf ext config r).HasLabel label ↔ ∃ output, r = .ok output ∧ output.HasLabel label := by
  cases r with
  | ok output => simp [outputOf]
  | error e => simp [outputOf, Output.HasLabel]

theorem containedText_finished {config : Config} {result : Except Failure Output}
    (instants : ∀ t, Contained own (ext.timestampDisplay t)) (clean : CleanResult own ext config result) :
    ContainedText own ((Outcome.finished config result).ending ext cli).stdout ↔
      (cli.json = true ∨ config.output = .json → ∀ label, (outputOf ext config result).HasLabel label →
        AllHigh (fun c => isControl c = true → own c) label) := by
  unfold Outcome.ending
  dsimp only
  by_cases json : cli.json = true ∨ config.output = .json
  · have printed : (cli.json || decide (config.output = .json)) = true := by simpa using json
    rw [if_pos printed, containedText_printJson_iff instants clean]
    exact ⟨fun h _ => h, fun h => h json⟩
  · have printed : ¬ (cli.json || decide (config.output = .json)) = true := by simpa using json
    rw [if_neg printed]
    exact iff_of_true (containedText_renderHuman instants clean) fun h => absurd h json

/-- The same of an invocation that has run, in terms of what the devices reported on the way. -/
theorem invoke_contained_iff {config : Config} {warnings : List String} {result : Except Failure Output} {w' : World}
    (shows : cli.command.Shows) (host : HostTexts own ext config) (hw : CleanRegistry own ext w)
    (run : Exec (planned ext plan) (invoke ext check config warnings cli.command).run w tr (.done (.ok result)) w') :
    ContainedText own ((Outcome.of config result).ending ext cli).stdout ↔
      (cli.command.Inspects → (cli.json = true ∨ config.output = .json) → ∀ label, LabelReported label tr →
        AllHigh (fun c => isControl c = true → own c) label) := by
  obtain ⟨result', _, _, hresult, -, clean, others⟩ := (traces_invoke
    (R := fun r _ _ => CleanResult own ext config r ∧
      (¬ cli.command.Inspects → ∀ label, ¬ (outputOf ext config r).HasLabel label)) fun w₁ same =>
    Traces.of_safe (command_clean host shows (stable_clean same hw))).result run
  cases hresult
  -- the labels of the output are those that the devices reported on the way
  have labels : cli.command.Inspects → ∀ label, LabelReported label tr ↔
      (outputOf ext config result).HasLabel label := by
    intro inspects label
    rw [hasLabel_outputOf]
    unfold CliCommand.Inspects at inspects
    split at inspects
    · rename_i target hcommand
      rw [hcommand] at run
      exact invoke_labels run label
    · exact inspects.elim
  -- a panic prints nothing and has no labels
  by_cases panicked : result = .error .panicked
  · subst panicked
    exact iff_of_true allText_nil fun inspects _ label told => ((labels inspects label).mp told).elim
  · rw [Outcome.of_eq_finished panicked, containedText_finished host.timestampDisplay clean]
    constructor
    · intro h inspects json label told
      exact h json label ((labels inspects label).mp told)
    · intro h json label told
      by_cases inspects : cli.command.Inspects
      · exact h inspects json label ((labels inspects label).mpr told)
      · exact absurd told (others inspects label)

/-- **What reaches the terminal.**  After any history of commands, an invocation of one of the three prints no control
character but the host's own, unless it inspects, prints JSON, and a device reported a label with such a character
from DEL on. -/
theorem terminal_contained_iff (shows : cli.command.Shows)
    (host : ∀ c config, cli.load x env contents = .ok c → c.resolve x = some config → HostTexts own ext config)
    (pumps : ∀ config transport cause, o = .finished config (.error (pumpFailure transport cause)) →
      Contained own cause)
    (runs : Sessions (planned ext plan) (HostRuns own ext) w₀ w) (start : CleanRegistry own ext w₀)
    (ends : Ends x ext check plan env cli contents w tr o) :
    ContainedText own (o.ending ext cli).stdout ↔
      (InspectsAsJson x env cli contents → ∀ label, LabelReported label tr →
        AllHigh (fun c => isControl c = true → own c) label) := by
  -- an invocation that ends before it runs has read no label
  have silent : ∀ {label : String}, ¬ LabelReported label ([] : List (Event (planned ext plan))) := by
    rintro label ⟨⟨e, he, -⟩, -⟩
    cases he
  cases ends with
  | misconfigured refused => exact iff_of_true allText_nil fun _ label told => absurd told silent
  | zoneless loaded zone => exact iff_of_true allText_nil fun _ label told => absurd told silent
  | @returned c config _ result _ loaded resolved run =>
      have asJson : (∃ c, cli.load x env contents = .ok c ∧ c.output = .json) ↔ config.output = .json := by
        obtain ⟨-, -, -, -, output⟩ := Configuration.resolve_fields resolved
        rw [output]
        constructor
        · rintro ⟨c', loaded', h⟩
          rw [loaded] at loaded'
          cases loaded'
          exact h
        · exact fun h => ⟨c, loaded, h⟩
      rw [invoke_contained_iff shows (host c config loaded resolved) (clean_of_sessions runs start) run, ← asJson]
      exact ⟨fun h asks => h asks.inspects asks.json, fun h inspects json => h ⟨inspects, json⟩⟩
  | @pumpExited c config _ q _ loaded resolved run pumping transport cause =>
      have texts := host c config loaded resolved
      -- the pump exited before the operation returned, so its error is printed instead
      have unreturned : ∀ {label : String}, ¬ LabelReported label tr := by
        rintro label ⟨-, e, he, op, result, unlock⟩
        exact pumping.unreturned e he op result unlock
      have failure : Contained own (ext.render config (pumpFailure transport cause)) := by
        refine Contained.append (.append ?_ (contained_literal rfl)) (pumps config transport cause rfl)
        split
        · exact contained_literal rfl
        · exact contained_literal rfl
      have clean : CleanResult own ext config (.error (pumpFailure transport cause)) := failure
      rw [containedText_finished texts.timestampDisplay clean]
      exact iff_of_true (fun _ label told => told.elim) fun _ label told => absurd told unreturned

end Printed

/-! ## A label that clears the screen -/

namespace Scenario

/-- A label that starts with the C1 control CSI. -/
def clearScreen : String := "\u009b2J"

theorem lawful_reply (w : World) (nodeId : NodeId) (r : Request) (reply : Except MatterError r.Reply) :
    anything.admits (.wire nodeId r) w ⟨w.clock, some w.clock, reply⟩ := by
  refine ⟨⟨le_rfl, ?_, fun _ _ => nofun⟩, trivial⟩
  rintro at_ ⟨⟩
  exact ⟨le_rfl, le_rfl⟩

/-- A device can answer a request with anything. -/
theorem can_request (ctx : Ctx) (nodeId : NodeId) (r : Request) (a : r.Reply) (what : String) (w : World) :
    Can anything (request reference ctx nodeId r what).run (fun r' _ => r' = .ok a) w := by
  have connects := (Ends.of_eq (play_connect (s := {}) ctx nodeId w)).can
  refine Can.run_bind (connects.mono ?_)
  rintro _ w₁ ⟨rfl, -⟩
  refine ⟨_, rfl, Can.run_bind (Can.ask ⟨w₁.clock, some w₁.clock, .ok a⟩ (lawful_reply w₁ _ _ _) ⟨_, rfl, ?_⟩)⟩
  exact can_done.mpr rfl

theorem can_succeed {α : Type} {x : Action α} (h : Succeeds x) (w : World) :
    Can anything x.run (fun r _ => ∃ a, r = .ok a) w := by
  have live : anything.Live := fun c w => (system_live reference c w).imp fun _ h => ⟨h, trivial⟩
  obtain ⟨tr, r, w', run⟩ := exec_complete live x.run w
  exact run.can ((safe_of_returns h w).result run)

theorem can_inspectOne (ctx : Ctx) (nodeId : NodeId) (w : World) :
    Can anything (inspectOne reference ctx nodeId).run
      (fun r _ => ∃ o, r = .ok o ∧ o.ourFabricLabel = some clearScreen) w := by
  have names : Succeeds (readDeviceNames reference ctx nodeId) :=
    (Succeeds.attempt _).bind fun _ => (Succeeds.attempt _).bind fun _ => .pure _
  refine Can.run_bind ((can_succeed names w).mono ?_)
  rintro _ w₁ ⟨⟨vendorName, productName⟩, rfl⟩
  refine ⟨_, rfl, Can.run_bind ((can_request ctx nodeId .featureMapRead 0 _ w₁).mono ?_)⟩
  rintro _ w₂ rfl
  refine ⟨_, rfl, Can.run_bind ((can_request ctx nodeId .utcTimeRead none _ w₂).mono ?_)⟩
  rintro _ w₃ rfl
  refine ⟨_, rfl, Can.run_bind ((can_request ctx nodeId .granularityRead 4 _ w₃).mono ?_)⟩
  -- without the time zone feature the capacity is not asked for
  rintro _ w₄ rfl
  refine ⟨_, rfl, Can.run_bind (can_done.mpr ⟨0, rfl, ?_⟩)⟩
  -- a table of one row
  have row : lastFabricEntry [.ok { label := .ok clearScreen, fabricIndex := .ok (some 1) }] (none, none) =
      .ok (some clearScreen, some 1) := rfl
  refine Can.run_bind (Can.run_bind ((can_request ctx nodeId .fabricsRead
    (.ok [.ok { label := .ok clearScreen, fabricIndex := .ok (some 1) }]) _ w₄).mono ?_))
  rintro _ w₅ rfl
  exact ⟨_, rfl, can_done.mpr ⟨_, rfl, can_done.mpr ⟨_, rfl, rfl⟩⟩⟩

theorem can_runLocked {c : Config} (label : c.fabricLabel = fabric.label) {w : World} (hw : oneDevice.Same w) :
    Can anything (runLocked reference c (.inspect [1])).run
      (fun r _ => ∃ o : InspectOutcome, r = .ok [o] ∧ o.ourFabricLabel = some clearScreen) w := by
  have setup := (ends_setUp_found (s := {}) label (established_oneDevice.agree hw.files)).can
  rw [runLocked_eq]
  refine Can.run_bind (setup.mono ?_)
  rintro _ w₁ ⟨rfl, -⟩
  refine ⟨_, rfl, Can.run_bind (Can.run_bind ?_)⟩
  refine Can.bind ((can_inspectOne _ 1 w₁).mono ?_)
  rintro _ w₂ ⟨o, rfl, ho⟩
  refine can_done.mpr ⟨_, rfl, can_done.mpr ⟨_, rfl, ?_⟩⟩
  exact can_done.mpr ⟨o, rfl, ho⟩

/-- The run of an inspection, once its targets are known. -/
theorem can_run {c : Config} (label : c.fabricLabel = fabric.label) {w : World} (hw : oneDevice.Same w) :
    Can anything (run reference c (.inspect [1])).run
      (fun r _ => ∃ o : InspectOutcome, r = .ok [o] ∧ o.ourFabricLabel = some clearScreen) w := by
  have ready : (w.files identityPath).isSome = true := by
    rw [hw.at_ isState_identity, established_oneDevice.identity]
    rfl
  refine Can.run_bind ((ends_prepareStorageDir (s := {}) (.inr ready)).can.mono ?_)
  rintro _ w₁ ⟨rfl, h₁⟩
  refine ⟨_, rfl, Can.run_bind ((ends_lockStorage (s := {}) _ w₁).can.mono ?_)⟩
  rintro _ w₂ ⟨rfl, h₂⟩
  -- preparing the directory sets its mode and no more
  have private_ : w.Same { w with storageMode := some privateMode } := ⟨.refl _ _, rfl⟩
  have same : oneDevice.Same w₂ := hw.trans (private_.trans (h₁.same.trans h₂.same))
  refine ⟨_, rfl, Can.run_bind (Can.bind ((can_runLocked label same).mono ?_))⟩
  rintro _ w₃ ⟨o, rfl, ho⟩
  refine can_done.mpr ⟨_, rfl, Can.run_bind ?_⟩
  exact Can.ask ⟨w₃.clock, ()⟩ ⟨⟨le_rfl, trivial⟩, trivial⟩ ⟨_, rfl, can_done.mpr ⟨o, rfl, ho⟩⟩

theorem ends_logWarnings (s : Scenario) (warnings : List String) (w : World) :
    s.Ends (logWarnings warnings) w (.ok ()) w := by
  induction warnings generalizing w with
  | nil => exact .pure () w
  | cons warning warnings ih => exact Ends.bind (v := w) ⟨_, rfl, ⟨.refl _ _, rfl⟩, id⟩ fun w₁ h₁ => (ih w₁).alike h₁

/-- A device that answers with the label, and an inspection of it. -/
theorem can_invoke {check : CheckDigit} {c : Config} (label : c.fabricLabel = fabric.label) (warnings : List String) :
    Can anything (invoke reference check c warnings (.inspect none)).run
      (fun r _ => ∃ output : Output, r = .ok (.ok output) ∧ output.HasLabel clearScreen) oneDevice := by
  refine Can.run_bind ((ends_logWarnings {} warnings oneDevice).can.mono ?_)
  rintro _ w₁ ⟨rfl, h₁⟩
  have resolved := (ends_resolveOrEmpty (s := {}) (registry_oneDevice h₁) nodeIds_oneRecord).can
  have inspected : Can anything (runInspect reference c none).run
      (fun r _ => ∃ output : Output, r = .ok output ∧ output.HasLabel clearScreen) w₁ := by
    refine Can.run_bind (resolved.mono ?_)
    rintro _ w₂ ⟨rfl, h₂⟩
    refine ⟨_, rfl, Can.run_bind ((can_run label (h₁.same.trans h₂.same)).mono ?_)⟩
    rintro _ w₃ ⟨o, rfl, ho⟩
    exact ⟨_, rfl, can_done.mpr ⟨_, rfl, o, List.mem_singleton_self o, ho⟩⟩
  refine ⟨_, rfl, Can.run_bind (Can.bind (inspected.mono ?_))⟩
  rintro _ w₄ ⟨output, rfl, hlabel⟩
  exact can_done.mpr ⟨_, rfl, Can.run_bind (can_done.mpr ⟨_, rfl, can_done.mpr ⟨output, rfl, hlabel⟩⟩)⟩

/-! ### The texts of the host -/

section Texts

variable {own : Char → Prop}

theorem padded_own (width n : Nat) : ∀ c ∈ Reference.padded width n, isControl c = true → own c := by
  refine List.forall_mem_append.mpr ⟨fun c hc => ?_, toDigits_own (by decide) (by decide) n⟩
  obtain rfl := List.eq_of_mem_replicate hc
  exact printable_own (by decide) (by decide)

theorem fraction_own (nanos : Nat) : ∀ c ∈ Reference.fraction nanos, isControl c = true → own c := by
  unfold Reference.fraction
  split
  · exact List.forall_mem_nil _
  · refine List.forall_mem_cons.mpr ⟨printable_own (by decide) (by decide), fun c hc => ?_⟩
    have kept := (List.dropWhile_sublist _).subset (List.mem_reverse.mp hc)
    exact padded_own _ _ c (List.mem_reverse.mp kept)

theorem contained_rfc3339 (t : Timestamp) : Contained own (String.ofList (Reference.rfc3339 t)) := by
  refine contained_ofList ?_
  have mark : ∀ {c : Char} {l : List Char}, 32 ≤ c.toNat → c.toNat < 127 →
      (∀ d ∈ l, isControl d = true → own d) → ∀ d ∈ c :: l, isControl d = true → own d := fun hlo hhi h =>
    List.forall_mem_cons.mpr ⟨printable_own hlo hhi, h⟩
  unfold Reference.rfc3339
  dsimp only
  simp only [List.forall_mem_append]
  and_intros
  · exact padded_own _ _
  · exact mark (by decide) (by decide) (padded_own _ _)
  · exact mark (by decide) (by decide) (padded_own _ _)
  · exact mark (by decide) (by decide) (padded_own _ _)
  · exact mark (by decide) (by decide) (padded_own _ _)
  · exact mark (by decide) (by decide) (padded_own _ _)
  · exact fraction_own _
  · exact mark (by decide) (by decide) (List.forall_mem_nil _)

theorem contained_errorName (code : ErrorCode) : Contained own (Reference.errorName code) := by
  cases code with
  | other name =>
      refine contained_ofList fun c hc => ?_
      have alphanum := (List.mem_filter.mp hc).2
      simp only [Char.isAlphanum, Char.isAlpha, Char.isUpper, Char.isLower, Char.isDigit, Bool.or_eq_true,
        Bool.and_eq_true, decide_eq_true_eq] at alphanum
      have range : 48 ≤ c.toNat ∧ c.toNat ≤ 122 := by
        rcases alphanum with (⟨lo, hi⟩ | ⟨lo, hi⟩) | ⟨lo, hi⟩
        · have lo : 65 ≤ c.toNat := lo
          have hi : c.toNat ≤ 90 := hi
          omega
        · have lo : 97 ≤ c.toNat := lo
          have hi : c.toNat ≤ 122 := hi
          omega
        · have lo : 48 ≤ c.toNat := lo
          have hi : c.toNat ≤ 57 := hi
          omega
      exact printable_own (by omega) (by omega)
  | _ => exact contained_literal rfl

theorem contained_codecError {α : Type} {format : Format α} {raw cause : String}
    (h : (Reference.codec format).decode raw = .error cause) : Contained own cause := by
  unfold Reference.codec at h
  dsimp only at h
  split at h
  · split at h
    · cases h
    · cases h
      exact contained_literal rfl
  · cases h
    exact contained_literal rfl

theorem contained_matterError (newline : own '\n') (e : MatterError) : Contained own (reference.matterDebug e) := by
  refine ((contained_literal rfl).append (contained_errorName e.code)).append fun c hc _ => ?_
  obtain rfl := List.mem_singleton.mp hc
  exact newline

/-- The other packages, as they are spelled out, have no control characters in their texts but the line breaks that
end an error of rs-matter. -/
theorem hostTexts_reference {c : Config} (newline : own '\n') (source : Contained own c.source.display)
    (storagePath : Contained own c.storagePath.display) (timezone : Contained own c.timezone)
    (fabricLabel : Contained own c.fabricLabel) : HostTexts own reference c where
  source := source
  storagePath := storagePath
  timezone := timezone
  fabricLabel := fabricLabel
  ioDisplay e := by cases e <;> exact contained_literal rfl
  matterDebug := contained_matterError newline
  timestampDisplay t := contained_rfc3339 t
  identityError _ _ h := contained_codecError h

end Texts

/-! ### The configuration -/

/-- The configuration names the fabric as it is stored. -/
def labelFile : String := "\x7b\"fabricLabel\": \"mattertimectl\"\x7d"

/-- A reader that knows this file beside the empty one. -/
def labelOnly : ConfigExternals where
  getZone := utcOnly.getZone
  fromStr raw := if raw = labelFile then .ok { fabricLabel := some "mattertimectl" } else utcOnly.fromStr raw
  fromStr_empty := by
    rw [if_neg (by decide)]
    exact utcOnly.fromStr_empty
  pathDebug := utcOnly.pathDebug

/-- `inspect --json`. -/
def inspectJson : Cli where
  config := none
  json := true
  command := .inspect none

/-- What is loaded. -/
def labelConfig : Configuration :=
  { Configuration.default utcHost with source := defaultConfigPath, fabricLabel := "mattertimectl" }

theorem loads_labelConfig : inspectJson.load labelOnly utcHost (.ok labelFile) = .ok labelConfig := by
  have parsed : labelOnly.fromStr labelFile = .ok { fabricLabel := some "mattertimectl" } := by
    simp [labelOnly]
  refine load_eq_ok_iff.mpr ⟨_, .given parsed ⟨?_, ?_, ?_, ?_⟩, rfl⟩
  · rfl
  · rfl
  · decide
  · decide

theorem resolves_labelConfig : ∃ config, labelConfig.resolve labelOnly = some config ∧
    config.fabricLabel = fabric.label := by
  obtain ⟨config, resolved⟩ :=
    Option.ne_none_iff_exists'.mp (Configuration.resolve_ne_none (x := labelOnly) (c := labelConfig) rfl (by decide))
  obtain ⟨-, -, -, label, -⟩ := Configuration.resolve_fields resolved
  exact ⟨config, resolved, label⟩

/-- A host whose own texts have no control characters but line breaks. -/
theorem hostTexts_labelConfig {c : Configuration} {config : Config}
    (loaded : inspectJson.load labelOnly utcHost (.ok labelFile) = .ok c)
    (resolved : c.resolve labelOnly = some config) : HostTexts (· = '\n') reference config := by
  rw [loads_labelConfig] at loaded
  cases loaded
  obtain ⟨source, storagePath, timezone, label, -⟩ := Configuration.resolve_fields resolved
  refine hostTexts_reference rfl ?_ ?_ ?_ ?_
  · rw [source]
    exact contained_literal rfl
  · rw [storagePath]
    exact contained_literal rfl
  · rw [timezone]
    exact contained_literal rfl
  · rw [label]
    exact contained_literal rfl

theorem clean_oneDevice : CleanRegistry (· = '\n') reference oneDevice := by
  rw [CleanRegistry, registry_oneDevice (.refl _)]
  exact cleanDevices_empty.insert cleanRecord_empty _

/-- The inspection, up to its output. -/
theorem inspection_with_label : ∃ tr config output w', labelConfig.resolve labelOnly = some config ∧
    Exec anything (invoke reference Reference.verhoeff config (labelConfig.pathWarnings reference)
      inspectJson.command).run oneDevice tr (.done (.ok (.ok output))) w' ∧ output.HasLabel clearScreen := by
  obtain ⟨config, resolved, label⟩ := resolves_labelConfig
  obtain ⟨tr, _, w', run, output, rfl, hlabel⟩ := (can_invoke label (labelConfig.pathWarnings reference)).exec
  exact ⟨tr, config, output, w', resolved, run, hlabel⟩

end Scenario

open Scenario in
/-- **A device reaches the terminal.**  Its label, printed as JSON, has a C1 control in it. -/
theorem label_reaches_terminal : ∃ tr o,
    Ends labelOnly reference Reference.verhoeff (fun _ _ => True) utcHost inspectJson (.ok labelFile) oneDevice tr o ∧
      CleanRegistry (· = '\n') reference oneDevice ∧ LabelReported clearScreen tr ∧
      ¬ ContainedText (· = '\n') (o.ending reference inspectJson).stdout := by
  obtain ⟨tr, config, output, w', resolved, run, hlabel⟩ := inspection_with_label
  have reported : LabelReported clearScreen tr := (invoke_labels run clearScreen).mpr ⟨output, rfl, hlabel⟩
  refine ⟨tr, _, .returned loads_labelConfig resolved run, clean_oneDevice, reported, fun contained => ?_⟩
  have shows : inspectJson.command.Shows := trivial
  have texts := hostTexts_labelConfig loads_labelConfig resolved
  have labels := (invoke_contained_iff shows texts clean_oneDevice run).mp contained
  have own := labels trivial (.inl rfl) clearScreen reported '\u009b' (by decide) (by decide) (by decide)
  exact absurd own (by decide)

open Scenario in
theorem clear_screen_contained_iff : ∃ tr o,
    Ends labelOnly reference Reference.verhoeff (fun _ _ => True) utcHost inspectJson (.ok labelFile) oneDevice tr o ∧
      (ContainedText (· = '\n') (o.ending reference inspectJson).stdout ↔
        (InspectsAsJson labelOnly utcHost inspectJson (.ok labelFile) → ∀ label, LabelReported label tr →
          AllHigh (fun c => isControl c = true → c = '\n') label)) := by
  obtain ⟨tr, config, output, w', resolved, run, -⟩ := inspection_with_label
  have ends := Ends.returned loads_labelConfig resolved run
  have shows : inspectJson.command.Shows := trivial
  exact ⟨tr, _, ends, terminal_contained_iff shows (fun _ _ => hostTexts_labelConfig) (fun _ _ _ => nofun)
    .refl clean_oneDevice ends⟩

end MatterTimeCtl
