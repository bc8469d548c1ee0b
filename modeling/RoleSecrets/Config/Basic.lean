import RoleSecrets.Config.Log

/-! # The configuration

A configuration is a YAML document with a member for each setting. Settings that are missing stand
for their defaults, and members with other names are passed over.
-/

namespace RoleSecrets

/-- The settings of the controller. -/
structure Config where
  /-- The time between two ticks, in seconds. -/
  interval : Nat := 10
  /-- How long before they expire credentials are renewed, in seconds. -/
  refreshLimit : Nat := 900
  /-- How many role events may wait. -/
  eventQueueSize : Nat := 10
  /-- The base of role ARNs, where it need not be discovered. -/
  baseRoleArn : Option String := none
  /-- The role that is assumed to ask for credentials. -/
  assumeRole : Option String := none
  /-- The only namespace to look at. -/
  ns : Option String := none
  useRegionalStsEndpoint : Bool := false
  log : LogConfig := {}
deriving DecidableEq, Repr

namespace Config

open Yaml.Node in
def ofYaml? (node : Yaml.Node) : Option Config := do
  let members ← node.record? ["interval", "refreshLimit", "eventQueueSize", "baseRoleArn",
    "assumeRole", "namespace", "useRegionalStsEndpoint", "log"]
  let standard : Config := {}
  let name (member : String) := memberD? members member (optional? text?) none
  return {
    interval := ← memberD? members "interval" nat? standard.interval
    refreshLimit := ← memberD? members "refreshLimit" nat? standard.refreshLimit
    eventQueueSize := ← memberD? members "eventQueueSize" nat? standard.eventQueueSize
    baseRoleArn := ← name "baseRoleArn"
    assumeRole := ← name "assumeRole"
    ns := ← name "namespace"
    useRegionalStsEndpoint := ← memberD? members "useRegionalStsEndpoint" bool?
      standard.useRegionalStsEndpoint
    log := ← memberD? members "log" LogConfig.ofYaml? standard.log }

/-- The settings of a file's content, which must be UTF-8 and at most one document. -/
def ofBytes? (content : ByteArray) : Option Config := do
  match ← Yaml.documents? (← String.fromUTF8? content).toList with
  | [] => some {}
  | [document] => ofYaml? document
  | _ => none

/-- The lines of a document with the default settings. -/
def templateLines : List (String × String) :=
  let standard : Config := {}
  let number (n : Nat) := " " ++ String.ofList (Decimal.digits n)
  let flag (b : Bool) := if b then " true" else " false"
  [("interval", number standard.interval), ("refreshLimit", number standard.refreshLimit),
    ("eventQueueSize", number standard.eventQueueSize), ("baseRoleArn", " null"),
    ("assumeRole", " null"), ("namespace", " null"),
    ("useRegionalStsEndpoint", flag standard.useRegionalStsEndpoint), ("log", ""),
    ("  filePath", " null"), ("  emitJournald", flag standard.log.emitJournald),
    ("  emitStdout", flag standard.log.emitStdout), ("  emitStderr", flag standard.log.emitStderr),
    ("  format", " " ++ standard.log.format.name), ("  level", " " ++ standard.log.level.name)]

def template : String :=
  String.join (templateLines.map fun (name, value) => name ++ ":" ++ value ++ "\n")

end Config

end RoleSecrets
