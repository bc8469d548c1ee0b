import RoleSecrets.Host.FileTree
import RoleSecrets.InstanceMetadata
import RoleSecrets.Program

/-! # What a command asks of its host

`HostQuery` lists what a command does to the machine it runs on and what it learns from it; a
`HostProgram` is a program over these. Texts that are generated with the program, and not written
down in it, are asked for too, so that nothing depends on what they are.
-/

namespace RoleSecrets

/-- A text that is generated when the program is built, or by the reader of its arguments. -/
inductive BuiltText
  /-- The name of the program with that of the build. -/
  | longVersion
  /-- What there is to ask for, at length. -/
  | help
  /-- What is said about arguments that ask for help or mean nothing. -/
  | notice (arguments : List String)
  | completions (shell : String)
deriving DecidableEq, Repr

inductive HostQuery
  /-- Whether anything is known to be at a path. -/
  | exists (path : String)
  | read (path : String)
  /-- Opens a file for log records, and makes it if it is missing. -/
  | openLog (path : String)
  /-- Writes to the standard output. -/
  | print (text : String)
  /-- Writes to the standard error stream. -/
  | warn (text : String)
  | built (text : BuiltText)
  /-- Makes a client for the cluster. -/
  | connect
  /-- The version of the cluster's server. -/
  | serverVersion
  /-- The base role ARN that the instance's own profile tells. -/
  | discoverBase
deriving DecidableEq, Repr

abbrev HostReply : HostQuery → Type
  | .exists _ => Bool
  | .read _ => Except FileError ByteArray
  | .openLog _ => Unit
  | .print _ | .warn _ => Except FileError Unit
  | .built _ => String
  | .connect => Except String Unit
  | .serverVersion => Option String
  | .discoverBase => Except InstanceMetadata.Failure String

/-- A program that asks its host. -/
abbrev HostProgram := Program HostQuery HostReply

def HostProgram.request (question : HostQuery) : HostProgram (HostReply question) :=
  Program.request question

end RoleSecrets
