import RoleSecrets.CommandLine.Execute

/-! # The program

Carries out the program's arguments on the machine it runs on. There is no client for a cluster or
for an instance's metadata here, so the program stops where the controller would start.
-/

namespace RoleSecrets.Console

/-- What a failure to use a file means. -/
def fileError : IO.Error → FileError
  | .noFileOrDirectory .. => .missing
  | .inappropriateType _ code _ => if code = 21 then .isDirectory else .notDirectory
  | e => .other (toString e)

def write (stream : IO.FS.Stream) (text : String) : IO (Except FileError Unit) := do
  try
    stream.putStr text
    stream.flush
    return .ok ()
  catch e => return .error (fileError e)

/-- The texts of this build, for which none but the version is generated. -/
def generated : BuiltText → String
  | .longVersion => Identity.programName ++ " " ++ Identity.version ++ "\n"
  | _ => ""

def answer : (question : HostQuery) → IO (HostReply question)
  | .exists path => do
      try
        let _ ← IO.FS.Handle.mk path .read
        return true
      catch
        | .noFileOrDirectory .. | .inappropriateType .. => return false
        | _ => return true
  | .read path => do
      try
        return .ok (← IO.FS.readBinFile path)
      catch e => return .error (fileError e)
  | .openLog path => do
      try
        let _ ← IO.FS.Handle.mk path .append
      catch _ => return
  | .print text => do write (← IO.getStdout) text
  | .warn text => do write (← IO.getStderr) text
  | .built text => return generated text
  | .connect => return .ok ()
  | .serverVersion => return none
  | .discoverBase => return InstanceMetadata.baseArn .unreachable

/-- The names of the environment variables that parameters can be taken from. -/
def variableNames : List String :=
  let names {ρ : Type} (form : CommandLine.Form ρ) := form.parameters.filterMap (·.env)
  names CommandLine.Invocation.form ++ names CommandLine.RunOptions.form

/-- Where paths start for this run of the program. -/
def findPlaces : IO Places := do
  let home := (← IO.getEnv "HOME").getD "/"
  let cwd := (← IO.currentDir).toString
  match ← IO.getEnv "XDG_CONFIG_HOME" with
  | some configHome =>
      if Path.isAbsolute configHome then return { home, cwd, configHome } else return { home, cwd }
  | none => return { home, cwd }

end RoleSecrets.Console

open RoleSecrets RoleSecrets.Console in
def main (arguments : List String) : IO UInt32 := do
  let env ← variableNames.filterMapM fun name => do
    return (← IO.getEnv name).map fun value => (name, value)
  let ending ← (CommandLine.execute (← findPlaces) (env.lookup ·) arguments).runM answer
  let errors ← IO.getStderr
  match ending with
  | .controller .. =>
      errors.putStr "Error: There is no client for a cluster in this build\n"
      return 1
  | _ =>
      errors.putStr ending.errorText
      return ending.code.toUInt32
