import RoleSecrets.Fields

/-! # Log records

A record has a level, a message and fields whose values are text.
-/

namespace RoleSecrets

/-- How important a record is, the most important first. -/
inductive LogLevel
  | error
  | warn
  | info
  | debug
  | trace
deriving DecidableEq, Repr

/-- All levels, the most important first. -/
def LogLevel.all : List LogLevel := [.error, .warn, .info, .debug, .trace]

def LogLevel.name : LogLevel → String
  | .error => "ERROR"
  | .warn => "WARN"
  | .info => "INFO"
  | .debug => "DEBUG"
  | .trace => "TRACE"

/-- The place of a level among all levels. -/
def LogLevel.rank : LogLevel → Nat
  | .error => 1
  | .warn => 2
  | .info => 3
  | .debug => 4
  | .trace => 5

structure LogRecord where
  level : LogLevel
  message : String
  fields : Fields String := []
deriving DecidableEq, Repr

end RoleSecrets
