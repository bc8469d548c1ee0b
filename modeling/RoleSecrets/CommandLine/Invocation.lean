import RoleSecrets.CommandLine.Form
import RoleSecrets.Config.Basic

/-! # What the program can be asked for

An invocation is a command, or none, with what holds for all commands. The parameters of `run` go
before the settings of the same meaning in the configuration.
-/

namespace RoleSecrets.CommandLine

/-- What the values of parameters can be. -/
structure Reading (α : Type) where
  read : String → Except Refusal α

namespace Reading

def text : Reading String := ⟨.ok⟩

/-- Any text but the empty one. -/
def path : Reading String := ⟨fun text => if text = "" then .error .badValue else .ok text⟩

/-- A whole number of at most 64 bits. -/
def number : Reading Nat :=
  ⟨fun text => match Decimal.readNat64? text.toList with
    | some n => .ok n
    | none => .error .unreadable⟩

def level : Reading LogLevel :=
  ⟨fun text => match LogLevel.parse? text with
    | some level => .ok level
    | none => .error .unreadable⟩

def bool : Reading Bool :=
  ⟨fun text =>
    if text = "true" then .ok true else if text = "false" then .ok false else .error .badValue⟩

def oneOf (choices : List String) : Reading String :=
  ⟨fun text => if text ∈ choices then .ok text else .error .badValue⟩

/-- Puts what is read into a record. -/
def into {α ρ : Type} (reading : Reading α) (put : ρ → α → ρ) (text : String) (record : ρ) :
    Except Refusal ρ :=
  (reading.read text).map (put record)

end Reading

/-- The name of an environment variable of the program. -/
def variableName (name : String) : String := "IAMKEEPER_" ++ name

/-- A request for help. -/
def helpParameter {ρ : Type} : Parameter ρ :=
  { name := "help", letter := some 'h', action := .stop .helpWanted .helpWanted }

/-- What holds for all commands. -/
structure GlobalOptions where
  configFile : Option String := none
  logLevel : Option LogLevel := none
deriving DecidableEq, Repr

/-- What `run` can be told; it goes before the configuration. -/
structure RunOptions where
  interval : Option Nat := none
  refreshLimit : Option Nat := none
  eventQueueSize : Option Nat := none
  baseRoleArn : Option String := none
  assumeRole : Option String := none
  ns : Option String := none
  useRegionalStsEndpoint : Bool := false
deriving DecidableEq, Repr

namespace RunOptions

def form : Form RunOptions where
  parameters :=
    [{ name := "interval", env := variableName "INTERVAL"
       action := .value (Reading.number.into fun o n => { o with interval := some n }) },
     { name := "refresh-limit", env := variableName "REFRESH_LIMIT"
       action := .value (Reading.number.into fun o n => { o with refreshLimit := some n }) },
     { name := "event-queue-size", env := variableName "EVENT_QUEUE_SIZE"
       action := .value (Reading.number.into fun o n => { o with eventQueueSize := some n }) },
     { name := "base-role-arn", env := variableName "BASE_ROLE_ARN"
       action := .value (Reading.text.into fun o s => { o with baseRoleArn := some s }) },
     { name := "assume-role", env := variableName "ASSUME_ROLE"
       action := .value (Reading.text.into fun o s => { o with assumeRole := some s }) },
     { name := "namespace", letter := some 'n', env := variableName "NAMESPACE"
       action := .value (Reading.text.into fun o s => { o with ns := some s }) },
     { name := "use-regional-sts-endpoint", env := variableName "USE_REGIONAL_STS_ENDPOINT"
       action := .flag (Reading.bool.into fun o b => { o with useRegionalStsEndpoint := b }) },
     helpParameter]

/-- A configuration with what `run` was told. -/
def applyTo (options : RunOptions) (config : Config) : Config :=
  { config with
    interval := options.interval.getD config.interval
    refreshLimit := options.refreshLimit.getD config.refreshLimit
    eventQueueSize := options.eventQueueSize.getD config.eventQueueSize
    baseRoleArn := options.baseRoleArn <|> config.baseRoleArn
    assumeRole := options.assumeRole <|> config.assumeRole
    ns := options.ns <|> config.ns
    useRegionalStsEndpoint := options.useRegionalStsEndpoint || config.useRegionalStsEndpoint }

end RunOptions

inductive Command
  /-- Shows the version of the program and, unless that is all, of the server. -/
  | version (clientOnly : Bool)
  /-- Prints a completion script for a shell. -/
  | completions (shell : String)
  | defaultConfig
  /-- Prints the definition of role resources. -/
  | definition
  | sessionName (roleArn : String)
  | run (options : RunOptions)
deriving DecidableEq, Repr

namespace Command

/-- The shells that completion scripts are made for. -/
def shells : List String := ["bash", "elvish", "fish", "powershell", "zsh"]

def names : List String :=
  ["version", "completions", "default-config", "crd", "session-name", "run", "help"]

/-- A form with operands and no parameters but that for help. -/
def formOf {ρ : Type} (operands : List (Slot ρ)) : Form ρ :=
  { parameters := [helpParameter], operands }

def versionForm : Form Bool where
  parameters := [{ name := "client", action := .flag (Reading.bool.into fun _ b => b) },
    helpParameter]

def read (env : String → Option String) (name : String) (arguments : List String) :
    Except Refusal Command :=
  let operand (name : String) (reading : Reading String) : Form String :=
    formOf [⟨name, reading.into fun _ text => text⟩]
  match name with
  | "version" => (versionForm.read false env arguments).map version
  | "completions" =>
      ((operand "SHELL" (.oneOf shells)).read "" env arguments).map completions
  | "default-config" => ((formOf []).read defaultConfig env arguments)
  | "crd" => ((formOf []).read definition env arguments)
  | "session-name" => ((operand "ROLE_ARN" .text).read "" env arguments).map sessionName
  | "run" => (RunOptions.form.read {} env arguments).map run
  | "help" =>
      match arguments with
      | [] => .error .helpWanted
      | [topic] => .error (if topic ∈ names then .helpWanted else .unknown)
      | _ => .error .unknown
  | _ => .error .unknown

end Command

/-- What the program is asked for. -/
structure Invocation where
  options : GlobalOptions
  command : Option Command
deriving DecidableEq, Repr

namespace Invocation

def form : Form GlobalOptions where
  parameters :=
    [{ name := "config", letter := some 'c', env := variableName "CONFIG_FILE_PATH"
       action := .value (Reading.path.into fun o s => { o with configFile := some s }) },
     { name := "log-level", env := variableName "LOG_LEVEL"
       action := .value (Reading.level.into fun o l => { o with logLevel := some l }) },
     helpParameter,
     { name := "version", letter := some 'V'
       action := .stop (.versionWanted false) (.versionWanted true) }]
  commands := Command.names

def read (env : String → Option String) (arguments : List String) : Except Refusal Invocation := do
  let (progress, found) ← form.scan arguments false (form.start {})
  let command ← match found with
    | some (name, rest) => (Command.read env name rest).map some
    | none => .ok none
  return ⟨← form.finish env progress, command⟩

end Invocation

end RoleSecrets.CommandLine
