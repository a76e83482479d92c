/-
# MatterTimeCtl.Configuration — where a configuration comes from.

A configuration file is JSON in which every field is optional; `parse` fills in the defaults and validates the
result.  The file at the default location may be missing: `loadOptional` then answers with the defaults themselves,
and does not validate them.  `absent_is_empty_iff` says on which hosts the two agree.
-/
import MatterTimeCtl.Types

namespace MatterTimeCtl

open Files

/-! ## Paths -/

namespace OsPath

/-- On Unix a path is absolute when it starts at the root. -/
def isAbsolute (p : OsPath) : Bool := p.chars.head? = some (some '/')

/-- `Path::join`: an absolute path replaces `p`, another one goes after a separator. -/
def join (p q : OsPath) : OsPath :=
  if q.isAbsolute then q
  else if p.chars = [] ∨ p.chars.getLast? = some (some '/') then ⟨p.chars ++ q.chars⟩
  else ⟨p.chars ++ some '/' :: q.chars⟩

@[simp] theorem isAbsolute_join (p q : OsPath) :
    (p.join q).isAbsolute = (q.isAbsolute || p.isAbsolute) := by
  unfold join
  by_cases hq : q.isAbsolute = true
  · rw [if_pos hq, hq, Bool.true_or]
  · rw [if_neg hq, Bool.eq_false_iff.mpr hq, Bool.false_or]
    rcases p with ⟨_ | ⟨c, cs⟩⟩
    · -- nothing to put a separator after
      rw [if_pos (Or.inl rfl)]
      simpa [isAbsolute] using hq
    · split_ifs <;> rfl

end OsPath

/-! ## The host -/

/-- The two systems that the defaults tell apart. -/
inductive Platform where
  | linux
  | macos
  deriving DecidableEq

/-- What the defaults depend on. -/
structure HostEnvironment where
  platform : Platform
  /-- `HOME`, when it is set. -/
  home : Option OsPath
  /-- The system time zone, if it is identified: its IANA name, if it has one. -/
  systemZone : Option (Option String)

/-! ## The record -/

/-- A configuration as it is loaded. -/
structure Configuration where
  source : OsPath
  storagePath : OsPath
  timezone : String
  logLevel : Config.LogLevel
  fabricLabel : String
  output : OutputFormat
  deriving DecidableEq

/-- The fields that a configuration file gives. -/
structure ConfigFile where
  storagePath : Option String := none
  timezone : Option String := none
  logLevel : Option Config.LogLevel := none
  fabricLabel : Option String := none
  output : Option OutputFormat := none
  deriving DecidableEq

/-- Why a configuration does not load. -/
inductive ConfigError where
  | unreadable (path : OsPath) (source : IoError)
  | invalid (cause : String)
  | badTimezone (name : String)
  | badFabricLabel
  | relativeStoragePath (path : OsPath)
  deriving DecidableEq

/-- What loading a configuration takes from other packages. -/
structure ConfigExternals where
  /-- The zone of a name in the time zone database. -/
  getZone : String → Option TimeZone
  /-- The derived reader: fields in camel case, none required, others rejected. -/
  fromStr : String → Except String ConfigFile
  fromStr_empty : fromStr "\x7b\x7d" = .ok {}
  pathDebug : OsPath → String

/-- The message of an error. -/
def ConfigError.display (x : ConfigExternals) (ext : Externals) : ConfigError → String
  | .unreadable path source =>
    "cannot read configuration file " ++ path.display ++ ": " ++ ext.ioDisplay source
  | .invalid cause => "configuration is not valid: " ++ cause
  | .badTimezone name =>
    "\"timezone\" must be a valid IANA time-zone name (got " ++ ext.strDebug name ++ ")"
  | .badFabricLabel => "\"fabricLabel\" must be a non-empty string of at most " ++
      toString fabricLabelMaxLength ++ " characters"
  | .relativeStoragePath path => "\"storagePath\" must be an absolute path (got " ++ x.pathDebug path ++
      "); JSON configs get no shell expansion"

/-! ## Defaults -/

section Defaults

variable (env : HostEnvironment)

/-- The name of the system zone; UTC if the zone cannot be identified. -/
def defaultTimezone : String := (env.systemZone.bind id).getD "UTC"

/-- The platform's data directory. -/
def defaultStoragePath : OsPath :=
  match env.platform, env.home with
  | .macos, some home => home.join (.ofString "Library/Application Support/mattertimectl")
  | _, _ => .ofString "/var/lib/mattertimectl"

/-- The label that devices show for this controller. -/
def defaultFabricLabel : String := "Matter Time Controller"

/-- `Config::default`. -/
def Configuration.default : Configuration where
  source := .ofString ""
  storagePath := defaultStoragePath env
  timezone := defaultTimezone env
  logLevel := .warn
  fabricLabel := defaultFabricLabel
  output := .text

/-- The record that the derived reader builds, with the default of every field that is not given. -/
def ConfigFile.fill (file : ConfigFile) : Configuration where
  source := .ofString ""
  storagePath := (file.storagePath.map .ofString).getD (defaultStoragePath env)
  timezone := file.timezone.getD (defaultTimezone env)
  logLevel := file.logLevel.getD .warn
  fabricLabel := file.fabricLabel.getD defaultFabricLabel
  output := file.output.getD .text

/-- The defaults of the fields are the default configuration. -/
theorem ConfigFile.fill_empty : ({} : ConfigFile).fill env = Configuration.default env := rfl

end Defaults

/-! ## Loading -/

section Load

variable (x : ConfigExternals)

namespace Configuration

/-- The checks on a configuration, in the order of the source. -/
def validate (c : Configuration) : Except ConfigError Unit := do
  if !c.storagePath.isAbsolute then throw (.relativeStoragePath c.storagePath)
  if (x.getZone c.timezone).isNone then throw (.badTimezone c.timezone)
  if (trim c.fabricLabel.toList).isEmpty || c.fabricLabel.utf8ByteSize > fabricLabelMaxLength then
    throw .badFabricLabel

/-- The configured zone; loading has validated its name, so not finding it is a panic. -/
def timeZone (c : Configuration) : Except Failure TimeZone :=
  match x.getZone c.timezone with
  | some tz => .ok tz
  | none => .error .panicked

variable (env : HostEnvironment)

/-- A text with its defaults filled in, and checked. -/
def parse (raw : String) : Except ConfigError Configuration := do
  let file ← (x.fromStr raw).mapError .invalid
  let config := file.fill env
  config.validate x
  return config

/-- Load the file at `path`; `contents` is what reading it gives. -/
def load (path : OsPath) (contents : Except IoError String) : Except ConfigError Configuration := do
  let raw ← contents.mapError (.unreadable path)
  let config ← parse x env raw
  return { config with source := path }

/-- As `load`, but a file that is missing stands for the defaults. -/
def loadOptional (path : OsPath) : Except IoError String → Except ConfigError Configuration
  | .ok raw => do
    let config ← parse x env raw
    return { config with source := path }
  | .error .notFound => .ok { Configuration.default env with source := path }
  | .error source => .error (.unreadable path source)

end Configuration

/-! ## What validation lets through -/

/-- What validation checks. -/
structure Configuration.Valid (c : Configuration) : Prop where
  absolute : c.storagePath.isAbsolute = true
  zone : (x.getZone c.timezone).isSome = true
  label_visible : trim c.fabricLabel.toList ≠ []
  label_length : c.fabricLabel.utf8ByteSize ≤ fabricLabelMaxLength

/-- A check that is followed by others passes when it does not refuse and they pass. -/
theorem refuse_bind_eq_ok {ε α β : Type} {p : Prop} [Decidable p] {e : ε} {f : β → Except ε α}
    {rest : Except ε α} {a : α} :
    (if p then throw e >>= f else rest) = .ok a ↔ ¬ p ∧ rest = .ok a := by
  by_cases h : p
  · rw [if_pos h]
    exact ⟨fun refused => (nomatch refused), fun passes => absurd h passes.1⟩
  · rw [if_neg h]
    exact (and_iff_right h).symm

theorem refuse_eq_ok {ε : Type} {p : Prop} [Decidable p] {e : ε} :
    (if p then throw e else pure () : Except ε Unit) = .ok () ↔ ¬ p := by
  by_cases h : p
  · rw [if_pos h]
    exact ⟨fun refused => (nomatch refused), absurd h⟩
  · rw [if_neg h]
    exact ⟨fun _ => h, fun _ => rfl⟩

namespace Configuration

theorem validate_eq_ok_iff (c : Configuration) : c.validate x = .ok () ↔ c.Valid x := by
  unfold validate
  simp only [refuse_bind_eq_ok, refuse_eq_ok, Bool.not_eq_true', Bool.not_eq_false,
    Option.isNone_iff_eq_none, ← Option.isSome_iff_ne_none, Bool.or_eq_true, List.isEmpty_iff,
    decide_eq_true_eq, not_or, gt_iff_lt, Nat.not_lt]
  constructor
  · rintro ⟨absolute, zone, visible, length⟩
    exact ⟨absolute, zone, visible, length⟩
  · rintro ⟨absolute, zone, visible, length⟩
    exact ⟨absolute, zone, visible, length⟩

theorem timeZone_ne_panicked_iff (c : Configuration) :
    c.timeZone x ≠ .error .panicked ↔ (x.getZone c.timezone).isSome = true := by
  unfold timeZone
  cases x.getZone c.timezone <;> simp

variable {x} {env : HostEnvironment}

/-- Validation does not look at where a configuration comes from. -/
theorem Valid.from_ {c : Configuration} (h : c.Valid x) (path : OsPath) :
    ({ c with source := path } : Configuration).Valid x :=
  ⟨h.absolute, h.zone, h.label_visible, h.label_length⟩

/-- What `parse` returns has been validated, whatever the file gives. -/
theorem parse_eq_ok_iff {raw : String} {c : Configuration} :
    parse x env raw = .ok c ↔ ∃ file, x.fromStr raw = .ok file ∧ c = file.fill env ∧ c.Valid x := by
  unfold parse
  rw [bind_eq_ok_iff]
  simp only [mapError_eq_ok_iff, bind_eq_ok_iff]
  constructor
  · rintro ⟨file, hfile, ⟨⟩, hvalid, hc⟩
    cases hc
    exact ⟨file, hfile, rfl, (validate_eq_ok_iff x _).mp hvalid⟩
  · rintro ⟨file, hfile, rfl, hvalid⟩
    exact ⟨file, hfile, (), (validate_eq_ok_iff x _).mpr hvalid, rfl⟩

theorem valid_of_load {path : OsPath} {contents : Except IoError String} {c : Configuration}
    (h : load x env path contents = .ok c) : c.Valid x := by
  obtain ⟨raw, -, h⟩ := bind_eq_ok_iff.mp h
  obtain ⟨parsed, hparsed, h⟩ := bind_eq_ok_iff.mp h
  cases h
  obtain ⟨-, -, -, hvalid⟩ := parse_eq_ok_iff.mp hparsed
  exact hvalid.from_ path

/-- A file that is there is loaded as any other. -/
theorem loadOptional_ok (path : OsPath) (raw : String) :
    loadOptional x env path (.ok raw) = load x env path (.ok raw) := rfl

end Configuration

end Load

/-! ## Absent and empty files -/

section Absent

variable (x : ConfigExternals) (env : HostEnvironment)

/-- A configuration that can be worked with: it passes validation, its storage path is absolute and resolving its
zone does not panic. -/
structure Configuration.Usable (c : Configuration) : Prop where
  validated : c.validate x = .ok ()
  absolute : c.storagePath.isAbsolute = true
  zone : c.timeZone x ≠ .error .panicked

variable {x} in
theorem Configuration.Valid.usable {c : Configuration} (h : c.Valid x) : c.Usable x :=
  ⟨(validate_eq_ok_iff x c).mpr h, h.absolute, (timeZone_ne_panicked_iff x c).mpr h.zone⟩

/-- On this host a missing file loads as one that gives no field, and whatever loads is usable. -/
structure AbsentIsEmpty : Prop where
  same : ∀ (path : OsPath) (raw : String), x.fromStr raw = .ok {} →
    Configuration.loadOptional x env path (.error .notFound) = Configuration.loadOptional x env path (.ok raw)
  usable : ∀ (path : OsPath) (contents : Except IoError String) (c : Configuration),
    Configuration.load x env path contents = .ok c ∨ Configuration.loadOptional x env path contents = .ok c →
      c.Usable x

/-- The host's defaults can stand in for a file: `HOME` does not make the data directory relative, and the name of
the system zone is in the database. -/
structure DefaultsStand : Prop where
  home : env.platform = .macos → ∀ home ∈ env.home, home.isAbsolute = true
  zone : (x.getZone (defaultTimezone env)).isSome = true

theorem defaultStoragePath_isAbsolute_iff :
    (defaultStoragePath env).isAbsolute = true ↔
      (env.platform = .macos → ∀ home ∈ env.home, home.isAbsolute = true) := by
  have hvar : (OsPath.ofString "/var/lib/mattertimectl").isAbsolute = true := by decide
  have hlibrary : (OsPath.ofString "Library/Application Support/mattertimectl").isAbsolute = false := by
    decide
  rcases env with ⟨_ | _, _ | home, zone⟩
  · simp [defaultStoragePath, hvar]
  · simp [defaultStoragePath, hvar]
  · simp [defaultStoragePath, hvar]
  · -- a home directory on macOS is the only part that the environment chooses
    simp [defaultStoragePath, hlibrary]

theorem default_valid_iff : (Configuration.default env).Valid x ↔ DefaultsStand x env := by
  constructor
  · intro h
    exact ⟨(defaultStoragePath_isAbsolute_iff env).mp h.absolute, h.zone⟩
  · intro h
    refine ⟨(defaultStoragePath_isAbsolute_iff env).mpr h.home, h.zone, ?_, ?_⟩
    · show trim "Matter Time Controller".toList ≠ []
      decide
    · show "Matter Time Controller".utf8ByteSize ≤ 32
      decide

variable {x env} in
/-- A file that gives no field loads as the defaults exactly if these are valid. -/
theorem loadOptional_empty_iff {path : OsPath} {raw : String} (empty : x.fromStr raw = .ok {}) :
    Configuration.loadOptional x env path (.ok raw) = .ok { Configuration.default env with source := path } ↔
      (Configuration.default env).Valid x := by
  rw [Configuration.loadOptional_ok]
  constructor
  · intro h
    exact (Configuration.valid_of_load h).from_ (.ofString "")
  · intro h
    have hparse : Configuration.parse x env raw = .ok (Configuration.default env) :=
      Configuration.parse_eq_ok_iff.mpr ⟨{}, empty, (ConfigFile.fill_empty env).symm, h⟩
    exact bind_eq_ok_iff.mpr ⟨raw, rfl, bind_eq_ok_iff.mpr ⟨_, hparse, rfl⟩⟩

/-- An absent configuration behaves as an empty one on the hosts whose defaults can stand in for a file, and on no
others. -/
theorem absent_is_empty_iff : AbsentIsEmpty x env ↔ DefaultsStand x env := by
  rw [← default_valid_iff]
  constructor
  · intro h
    exact (loadOptional_empty_iff x.fromStr_empty).mp (h.same (.ofString "") _ x.fromStr_empty).symm
  · intro h
    refine ⟨fun path raw empty => ((loadOptional_empty_iff empty).mpr h).symm, ?_⟩
    intro path contents c loaded
    rcases loaded with loaded | loaded
    · exact (Configuration.valid_of_load loaded).usable
    · rcases contents with (_ | _) | raw
      · -- the file is missing
        cases loaded
        exact (h.from_ path).usable
      · cases loaded
      · rw [Configuration.loadOptional_ok] at loaded
        exact (Configuration.valid_of_load loaded).usable

end Absent

/-! ## A host without a home directory -/

/-- A database of one zone, and a reader that knows the empty object, white space aside. -/
def utcOnly : ConfigExternals where
  getZone name := if name = "UTC" then some (.ofTable 0 []) else none
  fromStr raw :=
    if raw.toList.filter (· ∉ [' ', '\t', '\n', '\r']) = ['{', '}'] then .ok {}
    else .error "expected an empty object"
  fromStr_empty := rfl
  pathDebug p := p.display.quote

/-- macOS with `HOME` set to the empty string. -/
def emptyHome : HostEnvironment where
  platform := .macos
  home := some (.ofString "")
  systemZone := some (some "UTC")

/-- Without a file the data directory is relative to where the process happens to run; the file `{}` is refused for
that very path. -/
theorem empty_home_relative_storage :
    ¬ AbsentIsEmpty utcOnly emptyHome ∧
      (Configuration.loadOptional utcOnly emptyHome (.ofString "/etc/mattertimectl/config.json")
        (.error .notFound)).map (·.storagePath) =
        .ok (.ofString "Library/Application Support/mattertimectl") ∧
      Configuration.loadOptional utcOnly emptyHome (.ofString "/etc/mattertimectl/config.json")
        (.ok "\x7b\x7d") =
        .error (.relativeStoragePath (.ofString "Library/Application Support/mattertimectl")) := by
  refine ⟨fun h => ?_, by decide, by decide +kernel⟩
  have missing := h.same (.ofString "") "\x7b\x7d" rfl
  exact absurd missing (by decide +kernel)

end MatterTimeCtl
