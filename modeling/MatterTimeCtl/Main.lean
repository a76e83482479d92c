/-
# MatterTimeCtl.Main — one invocation, from the command line to the exit code.

The configuration is loaded before anything else; one that does not load ends the process with exit code 2.  Then the
command runs, and whatever it returns is printed once, in the rendering that `--json` or the configuration asks for.
While an operation runs, the transport and mDNS pumps run next to it, and a pump that exits ends the command with
an error.
-/
import MatterTimeCtl.Configuration
import MatterTimeCtl.Pairing
import MatterTimeCtl.Controller.Failures
import MatterTimeCtl.Storage.Frame

namespace MatterTimeCtl

open Files Effect Text

/-! ## The command line -/

/-- A command with its options, as they are given. -/
inductive CliCommand where
  | status (node : Option NodeId)
  | inspect (node : Option NodeId)
  | commission (pairingCode : String)
  | sync (node : Option NodeId) (time : Option String)
  | decommission (node : Option NodeId)
  deriving DecidableEq

/-- The command line. -/
structure Cli where
  /-- `--config`, when it is given. -/
  config : Option OsPath
  json : Bool
  command : CliCommand

/-- The file that is read when `--config` is not given. -/
def defaultConfigPath : OsPath := .ofString "/etc/mattertimectl/config.json"

/-! ## The configuration -/

section Startup

variable (x : ConfigExternals) (env : HostEnvironment)

/-- A file that is asked for must be there, the one at the default location need not. -/
def Cli.load (cli : Cli) (contents : Except IoError String) : Except ConfigError Configuration :=
  match cli.config with
  | some path => Configuration.load x env path contents
  | none => Configuration.loadOptional x env defaultConfigPath contents

/-- The file that the configuration comes from. -/
def Cli.configPath (cli : Cli) : OsPath := cli.config.getD defaultConfigPath

/-- The configuration with its zone looked up. -/
def Configuration.resolve (c : Configuration) : Option Config :=
  match x.getZone c.timezone with
  | some timeZone =>
    if h : c.fabricLabel.utf8ByteSize ≤ fabricLabelMaxLength then
      some {
        source := c.source, storagePath := c.storagePath, timezone := c.timezone, logLevel := c.logLevel
        output := c.output, timeZone, fabricLabel := c.fabricLabel, label_length := h }
    else none
  | none => none

/-- What is resolved is as it was loaded. -/
theorem Configuration.resolve_fields {x : ConfigExternals} {c : Configuration} {config : Config}
    (h : c.resolve x = some config) : config.source = c.source ∧ config.storagePath = c.storagePath ∧
      config.timezone = c.timezone ∧ config.fabricLabel = c.fabricLabel ∧ config.output = c.output := by
  unfold resolve at h
  split at h
  · split at h
    · cases h
      exact ⟨rfl, rfl, rfl, rfl, rfl⟩
    · cases h
  · cases h

end Startup

/-- The parts of a path between separators. -/
def OsPath.components (p : OsPath) : List OsPath :=
  ((p.chars.splitOn (some '/')).filter (· ≠ [])).map OsPath.mk

/-- Warnings for path components that look as if they expected shell expansion. -/
def Configuration.pathWarnings (ext : Externals) (c : Configuration) : List String :=
  c.storagePath.components.filterMap fun component =>
    let text := component.display
    let warning := fun looksLike => some ("storagePath component " ++ ext.strDebug text ++ " looks like " ++
      looksLike ++ "; JSON configs get no shell expansion, so it will be used as a literal directory name")
    if text.toList.head? = some '~' then warning "a shell tilde"
    else if '$' ∈ text.toList then warning "an unexpanded shell variable"
    else none

/-! ## The command -/

section Command

variable (ext : Externals) (check : CheckDigit) (config : Config)

/-- A pairing code is parsed before anything is started. -/
def runCliCommand : CliCommand → Action Output
  | .status node => runStatus ext config node
  | .inspect node => runInspect ext config node
  | .sync node time => runSync ext config node time
  | .commission pairingCode => do
    let onboarding ← orFail (fun e => .message e.display) (parseManualCode check pairingCode)
    runCommission ext config onboarding
  | .decommission node => runDecommission ext config node

/-- The warnings on the configured path, one after the other. -/
def logWarnings : List String → Action Unit
  | [] => return ()
  | warning :: warnings => do
    logWarn warning
    logWarnings warnings

/-- An error is logged before it is printed; after a panic there is nothing more. -/
def logFailure : Except Failure Output → Action Unit
  | .ok _ | .error .panicked => return ()
  | .error error => logError (ext.render config error)

/-- Everything after the configuration is loaded, up to the printing: the command's result is handed on. -/
def invoke (warnings : List String) (command : CliCommand) : Action (Except Failure Output) := do
  logWarnings warnings
  let result ← attempt (runCliCommand ext check config command)
  logFailure ext config result
  return result

end Command

/-! ## How a process ends -/

/-- How a process went. -/
inductive Outcome where
  /-- The configuration does not load. -/
  | misconfigured (error : ConfigError)
  | panicked
  | finished (config : Config) (result : Except Failure Output)

/-- What a process leaves behind: its standard output and its exit code. -/
structure Ending where
  stdout : List Piece
  exitCode : Nat

/-- A command that panics takes the process with it. -/
def Outcome.of (config : Config) : Except Failure Output → Outcome
  | .error .panicked => .panicked
  | result => .finished config result

theorem Outcome.of_eq_finished {config : Config} {result : Except Failure Output} (h : result ≠ .error .panicked) :
    Outcome.of config result = .finished config result := by
  unfold Outcome.of
  split
  · exact absurd rfl h
  · rfl

/-- What a result is printed as: failures are outputs too. -/
def outputOf (ext : Externals) (config : Config) : Except Failure Output → Output
  | .ok output => output
  | .error error => .error (ext.render config error)

/-- `-j` forces JSON; otherwise the configuration decides. -/
def Outcome.ending (ext : Externals) (cli : Cli) : Outcome → Ending
  -- the message goes to stderr
  | .misconfigured _ => { stdout := [], exitCode := 2 }
  | .panicked => { stdout := [], exitCode := 101 }
  | .finished config result =>
    let output := outputOf ext config result
    { stdout := if cli.json || config.output = .json then output.printJson ext else output.renderHuman ext
      exitCode := output.exitCode }

section Ends

variable (x : ConfigExternals) (ext : Externals) (check : CheckDigit) (plan : (c : Call) → c.Move → Prop)
  (env : HostEnvironment)

/-- The pumps are running: the mDNS socket is bound, the operation has not returned, and it has not panicked, for it
could still come to another end. -/
structure Pumping (tr : List (Event (planned ext plan))) (q : Prog (Except Failure (Except Failure Output)))
    (w' : World) : Prop where
  bound : ∃ e ∈ tr, ∃ interface, e.1 = .bindMdns interface
  running : ∀ op result next, q ≠ .call (.unlock op result) next
  unreturned : ∀ e ∈ tr, ∀ op result, e.1 ≠ .unlock op result
  alive : ∃ tr' r w'', Exec (planned ext plan) q w' tr' (.done (.ok r)) w'' ∧ r ≠ .error .panicked

/-- The error of a command whose pump exits. -/
def pumpFailure (transport : Bool) (cause : String) : Failure :=
  .message ((if transport then "Matter transport" else "mDNS runner") ++ " exited prematurely: " ++ cause)

/-- How an invocation ends that finds `contents` at the place of the configuration, started in the world `w`, with
the moves of the environment on the way. -/
inductive Ends (cli : Cli) (contents : Except IoError String) (w : World) :
    List (Event (planned ext plan)) → Outcome → Prop where
  | misconfigured {error : ConfigError} (refused : cli.load x env contents = .error error) :
      Ends cli contents w [] (.misconfigured error)
  /-- Where a command looks the zone up, this panics, with nothing printed yet.  Here every command does. -/
  | zoneless {c : Configuration} (loaded : cli.load x env contents = .ok c) (zone : c.resolve x = none) :
      Ends cli contents w [] .panicked
  | returned {c : Configuration} {config : Config} {tr : List (Event (planned ext plan))}
      {result : Except Failure Output} {w' : World} (loaded : cli.load x env contents = .ok c)
      (resolved : c.resolve x = some config)
      (run : Exec (planned ext plan) (invoke ext check config (c.pathWarnings ext) cli.command).run w tr
        (.done (.ok result)) w') :
      Ends cli contents w tr (.of config result)
  | pumpExited {c : Configuration} {config : Config} {tr : List (Event (planned ext plan))}
      {q : Prog (Except Failure (Except Failure Output))} {w' : World}
      (loaded : cli.load x env contents = .ok c) (resolved : c.resolve x = some config)
      (run : Exec (planned ext plan) (invoke ext check config (c.pathWarnings ext) cli.command).run w tr q w')
      (pumping : Pumping ext plan tr q w') (transport : Bool) (cause : String) :
      Ends cli contents w tr (.finished config (.error (pumpFailure transport cause)))

end Ends

/-! ## What an invocation hands on -/

/-- A call that writes to the log and does nothing else. -/
def Logs : Call → Prop
  | .log _ _ => True
  | _ => False

theorem Logs.talk {c : Call} (h : Logs c) : Talk c := by
  unfold Logs at h
  split at h
  · trivial
  · exact h.elim

section Invoke

variable {ext : Externals} {check : CheckDigit} {plan : (c : Call) → c.Move → Prop} {config : Config}

theorem logs_logWarnings (warnings : List String) : (logWarnings warnings).run.Uses Logs := by
  induction warnings with
  | nil => exact uses_run_pure _
  | cons warning warnings ih => exact uses_run_bind (uses_ask trivial) fun _ => ih

theorem logs_logFailure (result : Except Failure Output) : (logFailure ext config result).run.Uses Logs := by
  rcases result with e | output
  · cases e with
    | panicked => exact uses_run_pure _
    | _ => exact uses_ask trivial
  · exact uses_run_pure _

theorem succeeds_logWarnings (warnings : List String) : Succeeds (logWarnings warnings) := by
  induction warnings with
  | nil => exact .pure _
  | cons warning warnings ih => exact (Succeeds.ask _).bind fun _ => ih

theorem succeeds_logFailure (result : Except Failure Output) : Succeeds (logFailure ext config result) := by
  rcases result with e | output
  · cases e with
    | panicked => exact .pure _
    | _ => exact .ask _
  · exact .pure _

/-- The moves `during`, with nothing but entries of the log before and after them. -/
def Around (tr during : List (Event (planned ext plan))) : Prop :=
  ∃ before after, tr = before ++ (during ++ after) ∧ ∀ e ∈ before ++ after, Logs e.1

/-- What can be said of some move, but of none on the log. -/
theorem Around.exists_iff {tr during : List (Event (planned ext plan))} (h : Around tr during)
    {D : Event (planned ext plan) → Prop} (logs : ∀ e, Logs e.1 → ¬ D e) :
    (∃ e ∈ tr, D e) ↔ ∃ e ∈ during, D e := by
  obtain ⟨before, after, rfl, quiet⟩ := h
  constructor
  · rintro ⟨e, he, hD⟩
    rw [List.mem_append, List.mem_append] at he
    rcases he with he | he | he
    · exact absurd hD (logs e (quiet e (List.mem_append_left _ he)))
    · exact ⟨e, he, hD⟩
    · exact absurd hD (logs e (quiet e (List.mem_append_right _ he)))
  · rintro ⟨e, he, hD⟩
    exact ⟨e, List.mem_append_right _ (List.mem_append_left _ he), hD⟩

/-- **An invocation** hands on what its command returned; besides the command's own moves there are only those of
the log. -/
theorem traces_invoke {R : Except Failure Output → List (Event (planned ext plan)) → World → Prop}
    {warnings : List String} {command : CliCommand} {w : World}
    (run : ∀ w', w.Same w' → Traces (planned ext plan) (runCliCommand ext check config command).run R w') :
    Traces (planned ext plan) (invoke ext check config warnings command).run
      (fun r tr _ => ∃ result during w', r = .ok result ∧ Around tr during ∧ R result during w') w := by
  have logged : Traces (planned ext plan) (logWarnings warnings).run
      (fun r tr w' => (∃ a, r = .ok a) ∧ (∀ e ∈ tr, Logs e.1) ∧ w.Same w') w := by
    have quiet := (logs_logWarnings warnings).mono fun _ h => h.talk.quiet
    refine ((Traces.of_returns (succeeds_logWarnings warnings) w).and
      ((Traces.of_uses (logs_logWarnings warnings) w).and_safe (safe_quiet quiet w))).mono ?_
    rintro r tr w' ⟨returned, logs, same⟩
    exact ⟨returned, logs, same⟩
  refine logged.run_bind ?_ ?_
  · rintro _ before w₁ ⟨-, logsBefore, same⟩
    refine (run w₁ same).attempt_bind fun result during w₂ hR => ?_
    have handed : Succeeds (logFailure ext config result) := succeeds_logFailure result
    have failure := (Traces.of_returns (E := planned ext plan) handed w₂).and
      (Traces.of_uses (logs_logFailure result) w₂)
    refine failure.run_bind ?_ ?_
    · rintro _ after w₃ ⟨-, logsAfter⟩
      refine traces_run_pure.mpr ⟨result, during, w₂, rfl, ⟨before, after, ?_, ?_⟩, hR⟩
      · simp only [List.append_nil]
      · intro e he
        exact (List.mem_append.mp he).elim (logsBefore e) (logsAfter e)
    · rintro e after w₃ ⟨⟨_, failed⟩, -⟩
      cases failed
  · rintro e before w₁ ⟨⟨_, failed⟩, -⟩
    cases failed

/-- Whatever the configuration says and the world is like, there is an end that the invocation can come to. -/
theorem exists_ends (x : ConfigExternals) (env : HostEnvironment) (cli : Cli) (contents : Except IoError String)
    (w : World) : ∃ tr outcome, Ends x ext check (fun _ _ => True) env cli contents w tr outcome := by
  cases loaded : cli.load x env contents with
  | error error => exact ⟨_, _, .misconfigured loaded⟩
  | ok c =>
      cases resolved : c.resolve x with
      | none => exact ⟨_, _, .zoneless loaded resolved⟩
      | some config =>
          have live : (planned ext fun _ _ => True).Live := fun c w =>
            (system_live ext c w).imp fun _ h => ⟨h, trivial⟩
          obtain ⟨tr, r, w', run⟩ :=
            exec_complete live (invoke ext check config (c.pathWarnings ext) cli.command).run w
          -- its errors are handed on like its values
          obtain ⟨result, -, -, rfl, -⟩ := (traces_invoke fun w' _ => traces_trivial _ w').result run
          exact ⟨tr, _, .returned loaded resolved run⟩

end Invoke

end MatterTimeCtl
