import RoleSecrets.Json.Members
import RoleSecrets.Log
import RoleSecrets.Yaml.Value

/-! # Where log records go

Records that are important enough go to every sink that is turned on, as text or as one JSON object
a line. Text is colored, except in files.
-/

namespace RoleSecrets

/-- The level of a name in any case, or of its place among the levels. -/
def LogLevel.parse? (text : String) : Option LogLevel :=
  LogLevel.all.find? fun level =>
    Text.lower text.toList = Text.lower level.name.toList ||
      Decimal.readNat64? text.toList = some level.rank

inductive LogFormat
  | text
  | json
deriving DecidableEq, Repr

namespace LogFormat

def name : LogFormat → String
  | text => "text"
  | json => "json"

def ofName? (name : String) : Option LogFormat := [text, json].find? (·.name = name)

/-- The format a node stands for: by its text, or by its tag if there is nothing else. -/
def ofYaml? : Yaml.Node → Option LogFormat
  | .scalar value style tag =>
      match tag.bind fun tag => Text.dropStart? ['!'] tag.toList with
      | some name =>
          if style = .plain ∧ (value = "" ∨ value ∈ Yaml.nothings) then ofName? (String.ofList name)
          else none
      | none => ofName? value
  | _ => none

/-- The format a value stands for: a name, or an object that has the name for its only member. -/
def ofJson? : Json → Option LogFormat
  | .str name => ofName? name
  | .obj [(name, .null)] => ofName? name
  | _ => none

end LogFormat

/-- Where records can go to, other than the system's own log. -/
inductive LogSink
  | stdout
  | stderr
  | file
deriving DecidableEq, Repr

/-- Which records are kept, and where they go. -/
structure LogConfig where
  filePath : Option String := none
  emitJournald : Bool := false
  emitStdout : Bool := true
  emitStderr : Bool := false
  format : LogFormat := .text
  /-- The least important level that is kept. -/
  level : LogLevel := .info
deriving DecidableEq, Repr

namespace LogConfig

def names : List String :=
  ["filePath", "emitJournald", "emitStdout", "emitStderr", "format", "level"]

def ofYaml? (node : Yaml.Node) : Option LogConfig := do
  let members ← node.record? names
  let standard : LogConfig := {}
  let flag (name : String) (default : Bool) := Yaml.Node.memberD? members name Yaml.Node.bool? default
  return {
    filePath := ← Yaml.Node.memberD? members "filePath" (Yaml.Node.optional? Yaml.Node.text?)
      standard.filePath
    emitJournald := ← flag "emitJournald" standard.emitJournald
    emitStdout := ← flag "emitStdout" standard.emitStdout
    emitStderr := ← flag "emitStderr" standard.emitStderr
    format := ← Yaml.Node.memberD? members "format" LogFormat.ofYaml? standard.format
    level := ← Yaml.Node.memberD? members "level" (fun node => node.text?.bind LogLevel.parse?)
      standard.level }

def ofJson? (value : Json) : Option LogConfig := do
  let members ← Json.record? names value
  let standard : LogConfig := {}
  let flag (name : String) (default : Bool) := members.presentD? name Json.bool? default
  return {
    filePath := ← members.optional? "filePath" Json.str?
    emitJournald := ← flag "emitJournald" standard.emitJournald
    emitStdout := ← flag "emitStdout" standard.emitStdout
    emitStderr := ← flag "emitStderr" standard.emitStderr
    format := ← members.presentD? "format" LogFormat.ofJson? standard.format
    level := ← members.presentD? "level" (fun value => value.str?.bind LogLevel.parse?)
      standard.level }

def admits (config : LogConfig) (level : LogLevel) : Bool := level.rank ≤ config.level.rank

/-- Whether records go to a sink; a file must also be there to be opened. -/
def feeds (config : LogConfig) : LogSink → Bool
  | .stdout => config.emitStdout
  | .stderr => config.emitStderr
  | .file => config.filePath.isSome

/-- The records that arrive at a sink. -/
def arriving (config : LogConfig) (sink : LogSink) (records : List LogRecord) : List LogRecord :=
  if config.feeds sink then records.filter fun record => config.admits record.level else []

def isColored (config : LogConfig) (sink : LogSink) : Bool :=
  config.format = .text && sink ≠ .file

end LogConfig

/-- The names of the members of a record written as JSON. -/
def LogRecord.jsonNames : List String :=
  ["fields", "level", "target", "threadId", "threadName", "timestamp"]

end RoleSecrets
