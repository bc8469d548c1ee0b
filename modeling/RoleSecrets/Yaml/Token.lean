/-! # YAML tokens

The tokens of a YAML text. Some stand for signs in the text, others for a change of indentation.
-/

namespace RoleSecrets.Yaml

/-- How a scalar is written. -/
inductive Style
  | plain
  | quoted
  | literal
  | folded
deriving DecidableEq, Repr

inductive Token
  | streamEnd
  /-- A directive with the version of the language. -/
  | versionDirective (major minor : Nat)
  /-- A directive that says what a tag handle stands for. -/
  | tagDirective (handle start : String)
  | documentStart
  | documentEnd
  | blockSequenceStart
  | blockMappingStart
  | blockEnd
  | flowSequenceStart
  | flowSequenceEnd
  | flowMappingStart
  | flowMappingEnd
  | blockEntry
  | flowEntry
  | key
  | value
  | alias (name : String)
  | anchor (name : String)
  | tag (handle suffix : String)
  | scalar (text : String) (style : Style)
deriving DecidableEq, Repr

end RoleSecrets.Yaml
