import RoleSecrets.Text.Basic

/-! # Reading arguments

A form says which parameters, operands and commands may be given. A parameter is given by its name
after two dashes or by its letter after one; its value follows as the next argument, or right
behind. A value in an argument of its own is only read when the next argument has shown what it is,
so a mistake in that argument goes before a mistake in the value. What is not given is taken from
the environment.
-/

namespace RoleSecrets.CommandLine

/-- Why arguments are not carried out as a command. -/
inductive Refusal
  /-- An argument means nothing where it stands. -/
  | unknown
  /-- A value is missing, or is none of those that are possible. -/
  | badValue
  /-- A value cannot be read as what it should be. -/
  | unreadable
  | repeated
  /-- A value is attached to a parameter that takes none. -/
  | unneededValue
  | missingOperand
  | helpWanted
  | versionWanted (long : Bool)
deriving DecidableEq, Repr

/-- Something that takes a value: its name, and how the value goes into the record of what was
given. -/
structure Slot (ρ : Type) where
  name : String
  set : String → ρ → Except Refusal ρ

/-- What giving a parameter does. -/
inductive Action (ρ : Type)
  | value (set : String → ρ → Except Refusal ρ)
  /-- There is no value to give; it is true. -/
  | flag (set : String → ρ → Except Refusal ρ)
  /-- Nothing else counts; the reason depends on whether the name or the letter was given. -/
  | stop (byLetter byName : Refusal)

structure Parameter (ρ : Type) where
  name : String
  letter : Option Char := none
  /-- The environment variable that stands in for the parameter. -/
  env : Option String := none
  action : Action ρ

def Parameter.slot? {ρ : Type} (parameter : Parameter ρ) : Option (Slot ρ) :=
  match parameter.action with
  | .value set | .flag set => some ⟨parameter.name, set⟩
  | .stop .. => none

/-- What may be given. -/
structure Form (ρ : Type) where
  parameters : List (Parameter ρ)
  operands : List (Slot ρ) := []
  commands : List String := []

/-- How far arguments have been read. -/
structure Progress (ρ : Type) where
  record : ρ
  /-- The operands that are still to come. -/
  operands : List (Slot ρ)
  /-- The names of what was given. -/
  given : List String := []
  /-- What takes the next value, with the value if it is there already. -/
  pending : Option (Slot ρ × Option String) := none

namespace Progress

variable {ρ : Type}

/-- Puts a value in its place. -/
def store (p : Progress ρ) (slot : Slot ρ) (text : String) : Except Refusal (Progress ρ) :=
  if slot.name ∈ p.given then .error .repeated
  else do return { p with record := ← slot.set text p.record, given := slot.name :: p.given }

/-- Reads the value that is pending. -/
def settle (p : Progress ρ) : Except Refusal (Progress ρ) :=
  match p.pending with
  | none => .ok p
  | some (_, none) => .error .badValue
  | some (slot, some text) => store { p with pending := none } slot text

/-- Whether a value is still to come. -/
def isAwaiting (p : Progress ρ) : Bool :=
  match p.pending with
  | some (_, none) => true
  | _ => false

def parameter (p : Progress ρ) (parameter : Parameter ρ) (byName : Bool)
    (attached : Option String) : Except Refusal (Progress ρ) :=
  match parameter.action, attached with
  | .value set, none => do return { ← p.settle with pending := some (⟨parameter.name, set⟩, none) }
  | .value set, some text => do (← p.settle).store ⟨parameter.name, set⟩ text
  | .flag set, none => do (← p.settle).store ⟨parameter.name, set⟩ "true"
  | .stop letterReason nameReason, none => do
      let _ ← p.settle
      .error (if byName then nameReason else letterReason)
  | .flag _, some _ | .stop .., some _ => .error .unneededValue

def operand (p : Progress ρ) (text : String) : Except Refusal (Progress ρ) :=
  match p.operands with
  | [] => .error .unknown
  | slot :: operands => do return { ← p.settle with pending := some (slot, some text), operands }

/-- One more argument that is no parameter: the value that is still to come, or an operand. -/
def plain (p : Progress ρ) (text : String) : Except Refusal (Progress ρ) :=
  match p.pending with
  | some (slot, none) => .ok { p with pending := some (slot, some text) }
  | _ => p.operand text

end Progress

/-- What an argument looks like. -/
inductive Argument
  /-- Two dashes: everything behind them is an operand. -/
  | separator
  | name (name : String) (attached : Option String)
  | letters (letters : List Char)
  | plain
deriving DecidableEq, Repr

/-- What a text looks like as an argument. -/
def Argument.of (text : String) : Argument :=
  match text.toList with
  | ['-', '-'] => separator
  | '-' :: '-' :: rest =>
      match Text.cutAt? '=' rest with
      | some (before, after) => name (String.ofList before) (some (String.ofList after))
      | none => name (String.ofList rest) none
  | '-' :: letter :: rest => letters (letter :: rest)
  | _ => plain

namespace Form

variable {ρ : Type}

def start (form : Form ρ) (record : ρ) : Progress ρ := ⟨record, form.operands, [], none⟩

/-- One more parameter, given by its name. -/
def byName (form : Form ρ) (p : Progress ρ) (name : String) (attached : Option String) :
    Except Refusal (Progress ρ) :=
  match form.parameters.find? (·.name = name) with
  | some parameter => p.parameter parameter true attached
  | none => .error .unknown

/-- More parameters, given by their letters. What follows the letter of a parameter with a value is
that value, behind an equals sign or not. -/
def byLetters (form : Form ρ) (p : Progress ρ) : List Char → Except Refusal (Progress ρ)
  | [] => .ok p
  | letter :: rest =>
      match form.parameters.find? (·.letter = some letter) with
      | none => .error .unknown
      | some parameter =>
          match parameter.action with
          | .value _ =>
              p.parameter parameter false
                (if rest = [] then none else some (String.ofList (Text.dropStart ['='] rest)))
          | _ => do byLetters form (← p.parameter parameter false none) rest

/-- Reads arguments up to a command. Behind a separator everything is an operand. -/
def scan (form : Form ρ) :
    (arguments : List String) → (separated : Bool) → Progress ρ →
      Except Refusal (Progress ρ × Option (String × List String))
  | [], _, p => .ok (p, none)
  | text :: rest, true, p => do scan form rest true (← p.operand text)
  | text :: rest, false, p =>
      if !p.isAwaiting && form.commands.contains text then .ok (p, some (text, rest))
      else match Argument.of text with
        | .separator => scan form rest true p
        | .name name attached => do scan form rest false (← form.byName p name attached)
        | .letters letters => do scan form rest false (← form.byLetters p letters)
        | .plain => do scan form rest false (← p.plain text)

/-- Takes from the environment what was not given. -/
def fill (form : Form ρ) (env : String → Option String) (p : Progress ρ) :
    Except Refusal (Progress ρ) :=
  form.parameters.foldlM (fun p parameter =>
    match parameter.slot?, parameter.env.bind env with
    | some slot, some text => if slot.name ∈ p.given then .ok p else p.store slot text
    | _, _ => .ok p) p

/-- The record once all arguments have been read. -/
def finish (form : Form ρ) (env : String → Option String) (p : Progress ρ) : Except Refusal ρ := do
  let p ← form.fill env (← p.settle)
  if p.operands.isEmpty then .ok p.record else .error .missingOperand

/-- The record of arguments without a command. -/
def read (form : Form ρ) (record : ρ) (env : String → Option String) (arguments : List String) :
    Except Refusal ρ := do
  form.finish env (← form.scan arguments false (form.start record)).1

end Form

end RoleSecrets.CommandLine
