/-
# MatterTimeCtl.JsonMode — what an invocation with `--json` leaves behind.

The interface promises exactly one JSON object on stdout, on failure included, and an exit code that agrees with it.
`json_mode_iff` says which invocations keep the promise.  A configuration that does not load ends the process before
the one place that prints; a path that is no UTF-8 cannot be reported, and the printer's fallback is an error object
next to the exit code of a success; a panic prints nothing.  Every other invocation keeps it.
-/
import MatterTimeCtl.Controller.KeyPanic
import MatterTimeCtl.Scenario
import MatterTimeCtl.Text.JsonReader

namespace MatterTimeCtl

open Files Effect Text

/-! ## What an object says -/

/-- An `{"error": ...}` object. -/
def IsErrorObject (j : Json) : Prop := ∃ text, j = .object [("error", .string text)]

/-- A sync that the NTP gate refused. -/
def NtpRefused (j : Json) : Prop :=
  j.get? "hostNtpSynchronized" = some (.bool false) ∧ j.get? "manualTime" = some .null

/-- The entry of a node that failed.  A verdict decides where there is one, otherwise an error does. -/
def FailedNode (node : Json) : Prop :=
  (node.get? "success" = some (.bool false) ∧ node.get? "skipped" ≠ some (.bool true)) ∨
    (node.get? "success" = none ∧ ∃ text, node.get? "error" = some (.string text))

/-- One of the object's nodes failed. -/
def ListsFailedNode (j : Json) : Prop :=
  ∃ nodes node, j.get? "nodes" = some (.array nodes) ∧ node ∈ nodes ∧ FailedNode node

theorem isErrorObject_error (text : String) : IsErrorObject (.object [("error", .string text)]) := ⟨text, rfl⟩

/-- The error field stands alone. -/
theorem not_isErrorObject {key : String} {value : Json} {fields : List (String × Json)} (h : key ≠ "error") :
    ¬ IsErrorObject (.object ((key, value) :: fields)) := by
  rintro ⟨text, heq⟩
  injection heq with heq
  injection heq with hfield
  exact h (congrArg Prod.fst hfield)

theorem listsFailedNode_iff {α : Type} {f : α → Json} {items : List α} {j : Json}
    (h : j.get? "nodes" = some (.array (items.map f))) :
    ListsFailedNode j ↔ ∃ item ∈ items, FailedNode (f item) := by
  constructor
  · rintro ⟨nodes, node, hnodes, hmem, failed⟩
    rw [h] at hnodes
    cases hnodes
    obtain ⟨item, hitem, rfl⟩ := List.mem_map.mp hmem
    exact ⟨item, hitem, failed⟩
  · rintro ⟨item, hitem, failed⟩
    exact ⟨_, f item, h, List.mem_map_of_mem hitem, failed⟩

/-! ### The entries of a report -/

theorem InspectOutcome.failedNode_iff (o : InspectOutcome) : FailedNode o.json ↔ o.error.isNone = false := by
  unfold FailedNode InspectOutcome.json
  cases h : o.error <;> simp [Json.get?, List.lookup, optional]

theorem SyncOutcome.failedNode_iff (o : SyncOutcome) :
    FailedNode o.json ↔ (o.success || o.skipped) = false := by
  unfold FailedNode SyncOutcome.json
  simp [Json.get?, List.lookup]

theorem DecommissionOutcome.failedNode_iff (o : DecommissionOutcome) :
    FailedNode o.json ↔ o.success = false := by
  unfold FailedNode DecommissionOutcome.json
  simp [Json.get?, List.lookup]

theorem CommissionOutcome.not_failedNode (o : CommissionOutcome) : ¬ FailedNode o.json := by
  unfold FailedNode CommissionOutcome.json
  simp [Json.get?, List.lookup]

theorem NodeListing.not_failedNode (ext : Externals) (n : NodeListing) : ¬ FailedNode (n.json ext) := by
  unfold FailedNode NodeListing.json
  simp [Json.get?, List.lookup]

/-! ## The exit code and the object -/

/-- The exit code tells a failure exactly if the object does. -/
def Agrees (exitCode : Nat) (j : Json) : Prop :=
  exitCode = 0 ↔ ¬ IsErrorObject j ∧ ¬ NtpRefused j ∧ ¬ ListsFailedNode j

/-- A report of nodes, which agrees if its nodes do. -/
theorem agrees_of_nodes {α : Type} {f : α → Json} {items : List α} {j : Json} {exitCode : Nat}
    (hnodes : j.get? "nodes" = some (.array (items.map f))) (herror : ¬ IsErrorObject j)
    (h : exitCode = 0 ↔ ¬ NtpRefused j ∧ ∀ item ∈ items, ¬ FailedNode (f item)) : Agrees exitCode j := by
  unfold Agrees
  rw [h, listsFailedNode_iff hnodes, and_iff_right herror]
  push Not
  exact Iff.rfl

theorem not_ntpRefused_of_absent {j : Json} (h : j.get? "manualTime" = none) : ¬ NtpRefused j := by
  rintro ⟨-, hmanual⟩
  rw [h] at hmanual
  cases hmanual

section Output

variable {ext : Externals}

/-- An exit code that is 0 where a check passes. -/
theorem ite_exitCode_eq_zero {p : Prop} [Decidable p] : (if p then (0 : Nat) else 1) = 0 ↔ p := by
  by_cases h : p <;> simp [h]

/-- **The exit code agrees with the object** that an output serializes as. -/
theorem Output.agrees {output : Output} {j : Json} (h : output.json ext = .ok j) :
    (∃ fields, j = .object fields) ∧ Agrees output.exitCode j := by
  -- the exit code reads the same fields as the JSON has
  cases output with
  | status report =>
      obtain ⟨config, -, h⟩ := bind_eq_ok_iff.mp h
      cases h
      refine ⟨⟨_, rfl⟩, agrees_of_nodes rfl (not_isErrorObject (by decide)) ?_⟩
      refine iff_of_true rfl ⟨not_ntpRefused_of_absent rfl, fun n _ => n.not_failedNode ext⟩
  | inspection nodes =>
      cases h
      refine ⟨⟨_, rfl⟩, agrees_of_nodes rfl (not_isErrorObject (by decide)) ?_⟩
      rw [and_iff_right (not_ntpRefused_of_absent rfl)]
      simp only [exitCode, ite_exitCode_eq_zero, List.all_eq_true, InspectOutcome.failedNode_iff,
        Bool.not_eq_false]
  | sync hostNtpSynchronized manualTime nodes =>
      cases h
      refine ⟨⟨_, rfl⟩, agrees_of_nodes rfl (not_isErrorObject (by decide)) ?_⟩
      have refused : NtpRefused (.object [("hostNtpSynchronized", .bool hostNtpSynchronized),
          ("manualTime", optional .string manualTime), ("nodes", .array (nodes.map SyncOutcome.json))]) ↔
          (hostNtpSynchronized || manualTime.isSome) = false := by
        unfold NtpRefused
        cases manualTime <;> simp [Json.get?, List.lookup, optional]
      simp only [exitCode, ite_exitCode_eq_zero, Bool.and_eq_true, List.all_eq_true, refused,
        SyncOutcome.failedNode_iff, Bool.not_eq_false]
  | commissioned nodes =>
      cases h
      refine ⟨⟨_, rfl⟩, agrees_of_nodes rfl (not_isErrorObject (by decide)) ?_⟩
      exact iff_of_true rfl ⟨not_ntpRefused_of_absent rfl, fun o _ => o.not_failedNode⟩
  | decommission nodes remainingNodes =>
      cases h
      refine ⟨⟨_, rfl⟩, agrees_of_nodes rfl (not_isErrorObject (by decide)) ?_⟩
      rw [and_iff_right (not_ntpRefused_of_absent rfl)]
      simp only [exitCode, ite_exitCode_eq_zero, List.all_eq_true, DecommissionOutcome.failedNode_iff,
        Bool.not_eq_false]
  | error text =>
      cases h
      refine ⟨⟨_, rfl⟩, ?_⟩
      exact iff_of_false Nat.one_ne_zero fun agree => agree.1 (isErrorObject_error text)

/-! ## What is printed -/

/-- A path that can be written as text. -/
def OsPath.IsUtf8 (p : OsPath) : Prop := p.toStr.isSome = true

theorem pathJson_isOk_iff (p : OsPath) : (∃ j, pathJson p = .ok j) ↔ p.IsUtf8 := by
  unfold pathJson OsPath.IsUtf8
  cases p.toStr <;> simp

/-- The paths of a status report are all that can keep an output from being serialized. -/
theorem Output.json_status_isOk_iff (report : StatusReport) :
    (∃ j, (Output.status report).json ext = .ok j) ↔
      report.config.source.IsUtf8 ∧ report.config.storagePath.IsUtf8 := by
  rw [← pathJson_isOk_iff, ← pathJson_isOk_iff]
  show (∃ j, report.json ext = .ok j) ↔ _
  unfold StatusReport.json ConfigReport.json
  simp only [bind_eq_ok_iff]
  constructor
  · rintro ⟨j, config, ⟨source, hsource, storagePath, hstorage, -⟩, -⟩
    exact ⟨⟨source, hsource⟩, storagePath, hstorage⟩
  · rintro ⟨⟨source, hsource⟩, storagePath, hstorage⟩
    exact ⟨_, _, ⟨source, hsource, storagePath, hstorage, rfl⟩, rfl⟩

theorem Output.json_isOk_of_ne_status {output : Output} (h : ∀ report, output ≠ .status report) :
    ∃ j, output.json ext = .ok j := by
  cases output with
  | status report => exact absurd rfl (h report)
  | _ => exact ⟨_, rfl⟩

/-- What is printed reads back as the object. -/
theorem Output.readJson_printJson {output : Output} {j : Json} (h : output.json ext = .ok j) :
    readJson (render (output.printJson ext)) = some j := by
  unfold printJson
  rw [h]
  exact j.readJson_pretty

/-- What is printed without an object reads back as the printer's fallback. -/
theorem Output.readJson_printJson_error {output : Output} {cause : String} (h : output.json ext = .error cause) :
    readJson (render (output.printJson ext)) = some (serializeError cause) := by
  unfold printJson
  rw [h]
  exact (serializeError cause).readJson_compact

end Output

/-! ## Which output a command has -/

section Commands

variable {ext : Externals}

/-- The command does not report the state of the controller. -/
def Statusless (x : Action Output) : Prop := x.run.Returns fun r => ∀ report, r ≠ .ok (.status report)

theorem Statusless.pure {output : Output} (h : ∀ report, output ≠ .status report) : Statusless (pure output) :=
  Program.returns_done.mpr fun report heq => h report (Except.ok.inj heq)

/-- The last part has the output. -/
theorem Statusless.bind {α : Type} {x : Action α} {f : α → Action Output} (h : ∀ a, Statusless (f a)) :
    Statusless (x >>= f) := by
  refine returns_run_bind ((Program.returns_trivial x.run).mono ?_) h
  rintro r - e - report heq
  cases heq

variable (ext) (check : CheckDigit) (config : Config)

theorem statusless_runSync (target : Option NodeId) (time : Option String) :
    Statusless (runSync ext config target time) := by
  refine .bind fun manualTime => .bind fun ntp => ?_
  split
  · exact .bind fun _ => .pure nofun
  · exact .bind fun targets => .bind fun nodes => .pure nofun

theorem statusless_runInspect (target : Option NodeId) : Statusless (runInspect ext config target) := by
  refine .bind fun targets => ?_
  split
  · exact .pure nofun
  · exact .bind fun nodes => .pure nofun

theorem statusless_runDecommission (target : Option NodeId) :
    Statusless (runDecommission ext config target) :=
  .bind fun _ => .bind fun _ => .bind fun _ => .pure nofun

theorem statusless_runCommission (onboarding : Onboarding) : Statusless (runCommission ext config onboarding) :=
  .bind fun _ => .pure nofun

/-- A status report echoes the configuration. -/
theorem returns_runStatus (filter : Option NodeId) :
    (runStatus ext config filter).run.Returns fun r =>
      ∃ report, r = .ok (.status report) ∧ report.config = configReport config := by
  refine (Succeeds.ask _).returns_bind fun now => ?_
  refine Succeeds.returns_bind ((Succeeds.ask _).bind fun _ => .pure _) fun devices => ?_
  refine (succeeds_identityStatus ext).returns_bind fun identity => ?_
  refine (Succeeds.ask _).returns_bind fun initialized => (Succeeds.ask _).returns_bind fun ntp => ?_
  refine Succeeds.returns_bind ((Succeeds.ask _).bind fun _ => .pure _) fun micros => ?_
  exact Program.returns_done.mpr ⟨_, rfl, rfl⟩

def CliCommand.IsStatus : CliCommand → Prop
  | .status _ => True
  | _ => False

/-- What a command reports: its configuration if it is `status`, no configuration otherwise. -/
def CliCommand.Reports (command : CliCommand) (r : Except Failure Output) : Prop :=
  (command.IsStatus → ∃ report, r = .ok (.status report) ∧ report.config = configReport config) ∧
    (¬ command.IsStatus → ∀ report, r ≠ .ok (.status report))

theorem returns_runCliCommand (command : CliCommand) :
    (runCliCommand ext check config command).run.Returns (command.Reports config) := by
  have others : ∀ {x : Action Output} {command : CliCommand}, ¬ command.IsStatus → Statusless x →
      x.run.Returns (command.Reports config) := by
    intro x command h hx
    exact Program.Returns.mono (fun r hr => ⟨fun status => absurd status h, fun _ => hr⟩) hx
  cases command with
  | status filter =>
      refine (returns_runStatus ext config filter).mono fun r hr => ?_
      exact ⟨fun _ => hr, fun not_status => absurd trivial not_status⟩
  | inspect target => exact others nofun (statusless_runInspect ext config target)
  | commission pairingCode =>
      exact others nofun (Statusless.bind fun onboarding => statusless_runCommission ext config onboarding)
  | sync target time => exact others nofun (statusless_runSync ext config target time)
  | decommission target => exact others nofun (statusless_runDecommission ext config target)

variable {ext check config} {plan : (c : Call) → c.Move → Prop}

theorem invoke_reports {warnings : List String} {command : CliCommand} {w w' : World}
    {tr : List (Event (planned ext plan))} {result : Except Failure Output}
    (h : Exec (planned ext plan) (invoke ext check config warnings command).run w tr (.done (.ok result)) w') :
    command.Reports config result := by
  obtain ⟨result', during, w₁, hresult, -, reports⟩ := (traces_invoke
    (R := fun r _ _ => command.Reports config r) fun w₁ _ =>
      Traces.of_returns (returns_runCliCommand ext check config command) w₁).result h
  cases hresult
  exact reports

/-- `status` has no pumps. -/
theorem looks_invoke {warnings : List String} {command : CliCommand} (status : command.IsStatus) :
    (invoke ext check config warnings command).run.Uses Looks := by
  have logs : ∀ c, Logs c → Looks c := by
    intro c h
    unfold Logs at h
    split at h
    · trivial
    · exact h.elim
  cases command with
  | status filter =>
      refine uses_run_bind ((logs_logWarnings warnings).mono logs) fun _ => ?_
      refine uses_run_bind (uses_attempt (looks_status ext config filter)) fun result => ?_
      exact uses_run_bind ((logs_logFailure result).mono logs) fun _ => uses_run_pure _
  | _ => exact status.elim

end Commands

/-! ## Which configurations load -/

section Loading

variable (x : ConfigExternals) (env : HostEnvironment)

/-- The configuration that an invocation finds.  A file that is missing at the default location gives the defaults;
any other one has to be valid. -/
inductive Loads (cli : Cli) : Except IoError String → Configuration → Prop where
  | absent (unnamed : cli.config = none) : Loads cli (.error .notFound) (Configuration.default env)
  | given {raw : String} {file : ConfigFile} (parsed : x.fromStr raw = .ok file)
      (valid : (file.fill env).Valid x) : Loads cli (.ok raw) (file.fill env)

/-- jiff finds the zone it names for the host. -/
def KnownZone : Prop := (x.getZone (defaultTimezone env)).isSome = true

variable {x env}

theorem Configuration.load_ok_iff {path : OsPath} {raw : String} {c : Configuration} :
    Configuration.load x env path (.ok raw) = .ok c ↔ ∃ file, x.fromStr raw = .ok file ∧
      (file.fill env).Valid x ∧ c = { file.fill env with source := path } := by
  unfold Configuration.load
  simp only [bind_eq_ok_iff, Configuration.parse_eq_ok_iff]
  constructor
  · rintro ⟨raw', hraw, parsed, ⟨file, hfile, rfl, valid⟩, hc⟩
    cases hraw
    cases hc
    exact ⟨file, hfile, valid, rfl⟩
  · rintro ⟨file, hfile, valid, rfl⟩
    exact ⟨raw, rfl, _, ⟨file, hfile, rfl, valid⟩, rfl⟩

/-- **Loading** finds a configuration and notes where it comes from. -/
theorem load_eq_ok_iff {cli : Cli} {contents : Except IoError String} {c : Configuration} :
    cli.load x env contents = .ok c ↔
      ∃ found, Loads x env cli contents found ∧ c = { found with source := cli.configPath } := by
  have given : ∀ raw, cli.load x env (.ok raw) = Configuration.load x env cli.configPath (.ok raw) := by
    intro raw
    unfold Cli.load Cli.configPath
    cases cli.config <;> rfl
  -- the default file may be missing; a file that is there is parsed, wherever it is
  rcases contents with e | raw
  · constructor
    · intro h
      unfold Cli.load at h
      cases hpath : cli.config with
      | some path =>
          rw [hpath] at h
          cases h
      | none =>
          rw [hpath] at h
          cases e with
          | notFound =>
              cases h
              refine ⟨_, .absent hpath, ?_⟩
              rw [Cli.configPath, hpath]
              rfl
          | other => cases h
    · rintro ⟨found, ⟨unnamed⟩, rfl⟩
      rw [Cli.load, Cli.configPath, unnamed]
      rfl
  · rw [given, Configuration.load_ok_iff]
    constructor
    · rintro ⟨file, parsed, valid, rfl⟩
      exact ⟨_, .given parsed valid, rfl⟩
    · rintro ⟨found, loads, rfl⟩
      cases loads with
      | given parsed valid => exact ⟨_, parsed, valid, rfl⟩

theorem Loads.zone {cli : Cli} {contents : Except IoError String} {c : Configuration}
    (known : KnownZone x env) (h : Loads x env cli contents c) : (x.getZone c.timezone).isSome = true := by
  cases h with
  | absent _ => exact known
  | given _ valid => exact valid.zone

theorem Loads.label_length {cli : Cli} {contents : Except IoError String} {c : Configuration}
    (h : Loads x env cli contents c) : c.fabricLabel.utf8ByteSize ≤ fabricLabelMaxLength := by
  cases h with
  | absent _ => exact (by decide : defaultFabricLabel.utf8ByteSize ≤ fabricLabelMaxLength)
  | given _ valid => exact valid.label_length

theorem Configuration.resolve_ne_none {c : Configuration} (zone : (x.getZone c.timezone).isSome = true)
    (length : c.fabricLabel.utf8ByteSize ≤ fabricLabelMaxLength) : c.resolve x ≠ none := by
  obtain ⟨tz, htz⟩ := Option.isSome_iff_exists.mp zone
  unfold resolve
  rw [htz]
  simp [length]

end Loading

/-! ## The promise -/

/-- The invocation fails as a whole. -/
def Outcome.Failed : Outcome → Prop
  | .finished _ (.ok _) => False
  | _ => True

/-- **The promise of `--json`**: one object on stdout, an error object if the invocation fails, and an exit code that
agrees with it. -/
def JsonMode (ext : Externals) (cli : Cli) (o : Outcome) : Prop :=
  ∃ fields, readJson (render (o.ending ext cli).stdout) = some (.object fields) ∧
    (o.Failed → IsErrorObject (.object fields)) ∧ Agrees (o.ending ext cli).exitCode (.object fields)

section Promise

variable {ext : Externals} {cli : Cli}

theorem not_jsonMode_of_silent {o : Outcome} (h : (o.ending ext cli).stdout = []) : ¬ JsonMode ext cli o := by
  have nothing : readJson (render []) = none := by decide
  rintro ⟨fields, printed, -⟩
  rw [h, nothing] at printed
  cases printed

theorem jsonMode_finished_iff (json : cli.json = true) {config : Config} {result : Except Failure Output} :
    JsonMode ext cli (.finished config result) ↔ ∃ j, (outputOf ext config result).json ext = .ok j := by
  have hstdout : ((Outcome.finished config result).ending ext cli).stdout =
      (outputOf ext config result).printJson ext := by
    simp [Outcome.ending, json]
  constructor
  · rintro ⟨fields, printed, -, agrees⟩
    rw [hstdout] at printed
    cases hjson : (outputOf ext config result).json ext with
    | ok j => exact ⟨j, rfl⟩
    | error cause =>
        -- the fallback is an error object, and the exit code that of the status report
        exfalso
        rw [Output.readJson_printJson_error hjson] at printed
        have success : (outputOf ext config result).exitCode = 0 := by
          cases houtput : outputOf ext config result with
          | status report => rfl
          | _ =>
              rw [houtput] at hjson
              cases hjson
        have herror : IsErrorObject (.object fields) := by
          rw [← Option.some.inj printed]
          exact isErrorObject_error _
        exact (agrees.mp success).1 herror
  · rintro ⟨j, hjson⟩
    obtain ⟨⟨fields, rfl⟩, agrees⟩ := Output.agrees hjson
    refine ⟨fields, ?_, ?_, agrees⟩
    · rw [hstdout, Output.readJson_printJson hjson]
    · intro failed
      cases result with
      | ok output => exact failed.elim
      | error e =>
          injection hjson with hjson
          exact ⟨_, hjson.symm⟩

theorem outputOf_isOk {config : Config} {result : Except Failure Output}
    (h : ∀ report, result ≠ .ok (.status report)) : ∃ j, (outputOf ext config result).json ext = .ok j := by
  cases result with
  | ok output => exact Output.json_isOk_of_ne_status fun report heq => h report (congrArg _ heq)
  | error e => exact ⟨_, rfl⟩

variable (x : ConfigExternals) (ext) (env : HostEnvironment) {plan : (c : Call) → c.Move → Prop}

/-- The invocation can answer with an object: it has a configuration `c`, `status` has no path to report that is not
UTF-8, and no commission comes to decode a key that is cut inside a character. -/
structure CanAnswer (cli : Cli) (contents : Except IoError String) (w : World)
    (tr : List (Event (planned ext plan))) (c : Configuration) : Prop where
  loads : Loads x env cli contents c
  utf8 : cli.command.IsStatus → cli.configPath.IsUtf8 ∧ c.storagePath.IsUtf8
  steady : ¬ ((cli.command.Commissions ∧ KeyFileCut ext w) ∧ DeviceFound tr)

variable {x ext env} {check : CheckDigit} {contents : Except IoError String} {w : World}
  {tr : List (Event (planned ext plan))} {o : Outcome}

/-- With `--json`, stdout is one object that the exit code agrees with exactly if the invocation can answer. -/
theorem json_mode_iff (known : KnownZone x env) (json : cli.json = true)
    (ends : Ends x ext check plan env cli contents w tr o) :
    JsonMode ext cli o ↔ ∃ c, CanAnswer ext x env cli contents w tr c := by
  cases ends with
  | misconfigured refused =>
      refine iff_of_false (not_jsonMode_of_silent rfl) ?_
      rintro ⟨c, can⟩
      rw [load_eq_ok_iff.mpr ⟨c, can.loads, rfl⟩] at refused
      cases refused
  | zoneless loaded zone =>
      obtain ⟨found, loads, rfl⟩ := load_eq_ok_iff.mp loaded
      have hzone := loads.zone known
      have hlength := loads.label_length
      exact absurd zone (Configuration.resolve_ne_none hzone hlength)
  | @returned _ config _ result _ loaded resolved run =>
      obtain ⟨found, loads, rfl⟩ := load_eq_ok_iff.mp loaded
      have panics := invoke_panics run
      obtain ⟨statusReports, otherReports⟩ := invoke_reports run
      by_cases panicked : result = .error .panicked
      · subst panicked
        exact iff_of_false (not_jsonMode_of_silent rfl) fun ⟨_, can⟩ => can.steady (panics.mp rfl)
      have steady := fun h => panicked (panics.mpr h)
      rw [Outcome.of_eq_finished panicked, jsonMode_finished_iff json]
      by_cases status : cli.command.IsStatus
      · obtain ⟨report, rfl, hconfig⟩ := statusReports status
        obtain ⟨hsource, hstorage, -⟩ := Configuration.resolve_fields resolved
        show (∃ j, (Output.status report).json ext = .ok j) ↔ _
        rw [Output.json_status_isOk_iff, hconfig, configReport, hsource, hstorage]
        constructor
        · intro utf8
          exact ⟨found, loads, fun _ => utf8, steady⟩
        · rintro ⟨c, can⟩
          have same := (load_eq_ok_iff.mpr ⟨c, can.loads, rfl⟩).symm.trans loaded
          have hpath := congrArg Configuration.storagePath (Except.ok.inj same)
          dsimp only at hpath
          rw [← hpath]
          exact can.utf8 status
      · refine iff_of_true (outputOf_isOk (otherReports status)) ?_
        exact ⟨found, loads, fun h => absurd h status, steady⟩
  | @pumpExited _ config _ q w' loaded resolved run pumping transport cause =>
      obtain ⟨found, loads, rfl⟩ := load_eq_ok_iff.mp loaded
      refine iff_of_true ((jsonMode_finished_iff json).mpr ⟨_, rfl⟩) ⟨found, loads, ?_, ?_⟩
      · intro status
        obtain ⟨e, he, interface, hbind⟩ := pumping.bound
        have looks := run.uses (looks_invoke status) e he
        rw [hbind] at looks
        exact looks.elim
      · rintro ⟨cut, found⟩
        -- the operation could still come to an end that is no panic
        obtain ⟨tr', result, w'', rest, alive⟩ := pumping.alive
        exact alive ((invoke_panics (run.trans rest)).mpr ⟨cut, deviceFound_append.mpr (.inl found)⟩)

end Promise

/-! ## Two invocations -/

/-- A host in UTC, with the data directory where it belongs. -/
def utcHost : HostEnvironment where
  platform := .linux
  home := none
  systemZone := some (some "UTC")

/-- `status --json`. -/
def statusJson : Cli where
  config := none
  json := true
  command := .status none

/-- `commission --json` with half a pairing code. -/
def commissionJson : Cli where
  config := none
  json := true
  command := .commission "12345"

/-- With the configuration file `{"timezone":` stdout stays empty, and the exit code is 2. -/
theorem truncated_config_prints_nothing :
    ∃ o, Ends utcOnly reference Reference.verhoeff (fun _ _ => True) utcHost statusJson (.ok "\x7b\"timezone\":")
        Scenario.freshHost [] o ∧
      o.ending reference statusJson = { stdout := [], exitCode := 2 } ∧ ¬ JsonMode reference statusJson o := by
  have refused : statusJson.load utcOnly utcHost (.ok "\x7b\"timezone\":") =
      .error (.invalid "expected an empty object") := rfl
  exact ⟨_, .misconfigured refused, rfl, not_jsonMode_of_silent rfl⟩

/-- A pairing code that is refused is no reason to break the promise. -/
theorem json_mode_bad_code :
    ∃ tr o, Ends utcOnly reference Reference.verhoeff (fun _ _ => True) utcHost commissionJson (.error .notFound)
        Scenario.freshHost tr o ∧ JsonMode reference commissionJson o := by
  have loaded : commissionJson.load utcOnly utcHost (.error .notFound) =
      .ok { Configuration.default utcHost with source := defaultConfigPath } := rfl
  have known : KnownZone utcOnly utcHost := rfl
  obtain ⟨config, resolved⟩ := Option.ne_none_iff_exists'.mp
    (Configuration.resolve_ne_none (c := { Configuration.default utcHost with source := defaultConfigPath })
      known (by decide))
  have played := (Scenario.anyPlan {}).exec (invoke reference Reference.verhoeff config
    (Configuration.pathWarnings reference { Configuration.default utcHost with source := defaultConfigPath })
    commissionJson.command).run Scenario.freshHost
  have ends := Ends.returned loaded resolved played
  refine ⟨_, _, ends, ?_⟩
  refine (json_mode_iff known rfl ends).mpr ⟨_, .absent rfl, nofun, ?_⟩
  rintro ⟨⟨-, cut⟩, -⟩
  exact not_keyFileCut_of_absent rfl cut

end MatterTimeCtl
