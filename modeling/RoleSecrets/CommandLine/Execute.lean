import RoleSecrets.CommandLine.Invocation
import RoleSecrets.Config.File
import RoleSecrets.ResourceDefinition
import RoleSecrets.RoleArn

/-! # Carrying out an invocation

Commands that only print something need no configuration. All others read it first and open the log
file it names; `run` then settles how roles are named before the controller starts.
-/

namespace RoleSecrets

def Identity.version : String := "0.1.0"

namespace CommandLine

/-- Why a command failed. -/
inductive CommandError
  | config (cause : ConfigError)
  | metadata (cause : InstanceMetadata.Failure)
  | roleArn (arn : String) (cause : ArnError)
  /-- There is no client for the cluster. -/
  | client (detail : String)
  | output (cause : FileError)
deriving DecidableEq, Repr

def CommandError.message : CommandError → String
  | .config cause => cause.message
  | .metadata cause => cause.message
  | .roleArn arn cause => "Invalid role ARN " ++ arn ++ ", error: " ++ cause.message
  | .client detail => "Failed to initialize Kubernetes client configuration, error: " ++ detail
  | .output cause => "Failed to write to stdout, error: " ++ cause.message

/-- How the program ends, or goes on as a controller. -/
inductive Ending
  | exit (code : Nat)
  | failed (cause : CommandError)
  | refused (reason : Refusal)
  /-- The controller starts; the role is assumed first. -/
  | controller (config : Config) (naming : RoleNaming) (assumed : Option String)
deriving DecidableEq, Repr

namespace Ending

def code : Ending → Nat
  | exit code => code
  | failed _ => 1
  | refused _ => 2
  | controller .. => 0

/-- What is written to the standard error stream at the end. -/
def errorText : Ending → String
  | failed cause => "Error: " ++ cause.message ++ "\n"
  | _ => ""

/-- The end of a program that has written the last it had to write. -/
def ofWritten (code : Nat) : Except FileError Unit → Ending
  | .ok () => exit code
  | .error cause => failed (.output cause)

end Ending

/-- Prints texts, one after the other, and ends well once all are printed. -/
def printAll : (texts : List String) → HostProgram Ending
  | [] => pure (.exit 0)
  | text :: rest => do
      match ← HostProgram.request (.print text) with
      | .ok () => printAll rest
      | .error cause => pure (.failed (.output cause))

def printOnly (text : String) : HostProgram Ending := do
  pure (.ofWritten 0 (← HostProgram.request (.print text)))

/-- The configuration: a file that is named must be there. -/
def GlobalOptions.config (options : GlobalOptions) (places : Places) :
    HostProgram (Except ConfigError Config) := do
  let loaded ← match options.configFile with
    | some path => Config.load places path
    | none => do Config.loadOrDefault places (← Config.search places)
  pure (loaded.map fun config =>
    { config with log := { config.log with level := options.logLevel.getD config.log.level } })

def baseRoleArn (config : Config) : HostProgram (Except CommandError String) := do
  match config.baseRoleArn with
  | some base => pure (.ok base)
  | none => pure ((← HostProgram.request .discoverBase).mapError .metadata)

/-- Starts the controller, once it is settled how roles are named. -/
def startController (config : Config) : HostProgram Ending := do
  match ← baseRoleArn config with
  | .error cause => pure (.failed cause)
  | .ok base =>
      match RoleArn.scope base with
      | .error cause => pure (.failed (.roleArn base cause))
      | .ok scope =>
          let naming : RoleNaming := ⟨base, scope⟩
          pure (.controller config naming (config.assumeRole.map naming.resolve))

/-- What is shown of the program's own version. -/
def clientVersion : String := "Client Version: " ++ Identity.version ++ "\n"

/-- Carries out a command that needs a client for the cluster, or says what there is to ask for. -/
def withClient (command : Option Command) (config : Config) : HostProgram Ending := do
  match command with
  | some (.version _) => do
      let server := (← HostProgram.request .serverVersion).getD "unknown"
      printAll [← HostProgram.request (.built .longVersion),
        clientVersion ++ "Server Version: " ++ server ++ "\n"]
  | some (.run options) => startController (options.applyTo config)
  | _ => do
      let help ← HostProgram.request (.built .help)
      pure (.ofWritten 255 (← HostProgram.request (.warn help)))

/-- Carries out a command that needs a configuration. -/
def withConfig (command : Option Command) (config : Config) : HostProgram Ending := do
  if let some path := config.log.filePath then HostProgram.request (.openLog path)
  match ← HostProgram.request .connect with
  | .ok () => withClient command config
  | .error detail => pure (.failed (.client detail))

/-- Carries out an invocation. -/
def Invocation.execute (places : Places) (invocation : Invocation) : HostProgram Ending :=
  match invocation.command with
  | some (.version true) => do
      printAll [← HostProgram.request (.built .longVersion), clientVersion]
  | some (.completions shell) => do
      let script ← HostProgram.request (.built (.completions shell))
      match ← HostProgram.request (.print script) with
      | .ok () => pure (.exit 0)
      -- what writes the script does not expect that it cannot
      | .error _ => pure (.exit 101)
  | some .defaultConfig => printOnly Config.template
  | some .definition => printOnly ResourceDefinition.document
  | some (.sessionName roleArn) =>
      match RoleArn.ownSessionName roleArn with
      | .ok name => printOnly (name ++ "\n")
      | .error cause => pure (.failed (.roleArn roleArn cause))
  | command => do
      match ← invocation.options.config places with
      | .ok config => withConfig command config
      | .error cause => pure (.failed (.config cause))

/-- Says why arguments are not carried out. The program ends the same if that cannot be written. -/
def refuse (arguments : List String) : (reason : Refusal) → HostProgram Ending
  | .helpWanted => do
      let _ ← HostProgram.request (.print (← HostProgram.request (.built (.notice arguments))))
      pure (.exit 0)
  | .versionWanted true => do
      let _ ← HostProgram.request (.print (← HostProgram.request (.built .longVersion)))
      pure (.exit 0)
  | .versionWanted false => do
      let _ ← HostProgram.request (.print (Identity.programName ++ " " ++ Identity.version ++ "\n"))
      pure (.exit 0)
  | reason => do
      let _ ← HostProgram.request (.warn (← HostProgram.request (.built (.notice arguments))))
      pure (.refused reason)

/-- Carries out what the program's arguments ask for. -/
def execute (places : Places) (env : String → Option String) (arguments : List String) :
    HostProgram Ending :=
  match Invocation.read env arguments with
  | .ok invocation => invocation.execute places
  | .error reason => refuse arguments reason

end CommandLine

end RoleSecrets
