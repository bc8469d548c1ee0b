import RoleSecrets.Config.Basic
import RoleSecrets.Host.Query

/-! # Configuration files

The configuration is read from a file that is named, or else from the first file that is found in
the usual places. A file that is named must be there.
-/

namespace RoleSecrets

/-- Why there is no configuration. -/
inductive ConfigError
  | unopened (path : String) (cause : FileError)
  | unparsed (path : String)
deriving DecidableEq, Repr

def ConfigError.message : ConfigError → String
  | .unopened path cause => "Failed to open config from " ++ path ++ ", error: " ++ cause.message
  | .unparsed path => "Failed to parse config from " ++ path

def Identity.programName : String := "iamkeeper"

def Identity.configFileName : String := "config.yaml"

namespace Config

/-- The path of the configuration in a directory. -/
def pathIn (directory : String) : String := directory ++ "/" ++ Identity.configFileName

/-- Where the configuration is unless it is found elsewhere. -/
def defaultPath (places : Places) : String :=
  pathIn (places.configHome ++ "/" ++ Identity.programName)

/-- The other directories that may hold a configuration. -/
def fallbackDirectories (places : Places) : List String :=
  ["/etc/" ++ Identity.programName, places.home ++ "/.config/" ++ Identity.programName,
    places.home ++ "/." ++ Identity.programName]

def firstExisting : List String → HostProgram (Option String)
  | [] => pure none
  | path :: paths => do
      if ← HostProgram.request (.exists path) then pure (some path) else firstExisting paths

/-- The path of the configuration: the first that leads anywhere, or the default. -/
def search (places : Places) : HostProgram String := do
  let usual := defaultPath places :: (fallbackDirectories places).map pathIn
  pure ((← firstExisting usual).getD (defaultPath places))

/-- The settings with the path of the log file made absolute. -/
def placed (places : Places) (config : Config) : Config :=
  { config with log := { config.log with filePath := config.log.filePath.map places.resolve } }

/-- The configuration of a file's content. -/
def parse (places : Places) (path : String) (content : ByteArray) : Except ConfigError Config :=
  match ofBytes? content with
  | some config => .ok (config.placed places)
  | none => .error (.unparsed path)

def load (places : Places) (path : String) : HostProgram (Except ConfigError Config) := do
  let path := places.resolve path
  match ← HostProgram.request (.read path) with
  | .ok content => pure (parse places path content)
  | .error cause => pure (.error (.unopened path cause))

/-- The configuration at a path, or the defaults if nothing is there. Whether anything is there is
looked up without the tilde's meaning. -/
def loadOrDefault (places : Places) (path : String) : HostProgram (Except ConfigError Config) := do
  if ← HostProgram.request (.exists path) then load places path else pure (.ok {})

end Config

end RoleSecrets
