import RoleSecrets.Host.Query

/-! # A host

A host has files, takes what is written to the two output streams, unless the first is closed, and
knows the texts of the build. It neither reaches a cluster nor runs on an instance with a profile.
-/

namespace RoleSecrets

structure Host where
  places : Places
  files : FileTree
  /-- What has been printed. -/
  printed : String := ""
  /-- What has been written to the standard error stream. -/
  warned : String := ""
  /-- Why nothing can be printed, if that is so. -/
  unprintable : Option FileError := none
  texts : BuiltText → String := fun _ => ""

namespace Host

/-- The absolute path that the host itself takes a path for, which does not know the tilde. The empty
path leads nowhere. -/
def absolute? (host : Host) (path : String) : Option String :=
  if path = "" then none
  else if Path.isAbsolute path then some path
  else some (Path.below host.places.cwd path.toList)

def find (host : Host) (path : String) : Except FileError FileTree :=
  match host.absolute? path with
  | some path => host.files.find path
  | none => .error .missing

/-- The host after a file for log records has been opened. -/
def openLog (host : Host) (path : String) : Except FileError Host := do
  match host.absolute? path with
  | some path => return { host with files := ← host.files.provide path }
  | none => .error .missing

def serve : (question : HostQuery) → Host → HostReply question × Host
  | .exists path, host => ((host.find path).isOk, host)
  | .read path, host => (host.find path >>= FileTree.content, host)
  | .openLog path, host => ((), match host.openLog path with
      | .ok after => after
      | .error _ => host)
  | .print text, host => match host.unprintable with
      | some cause => (.error cause, host)
      | none => (.ok (), { host with printed := host.printed ++ text })
  | .warn text, host => (.ok (), { host with warned := host.warned ++ text })
  | .built text, host => (host.texts text, host)
  | .connect, host => (.ok (), host)
  | .serverVersion, host => (none, host)
  | .discoverBase, host => (InstanceMetadata.baseArn .unreachable, host)

def run {α : Type} (host : Host) (program : HostProgram α) :
    Program.Outcome HostQuery HostReply Host α :=
  program.run serve host

end Host

end RoleSecrets
