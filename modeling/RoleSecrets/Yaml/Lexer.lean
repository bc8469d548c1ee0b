import RoleSecrets.Yaml.Directive

/-! # From a YAML text to tokens

Outside brackets the indentation of the text opens and closes collections. A key is only known as
one when its colon comes: until then `SimpleKey` remembers where it started, so that the tokens for
it can be put in there.
-/

namespace RoleSecrets.Yaml

/-- The start of what may turn out to be a key. -/
structure SimpleKey where
  /-- Whether nothing but a key can stand there. -/
  required : Bool
  /-- How many tokens come before it. -/
  place : Nat
  index : Nat
  line : Nat
  column : Nat

structure Lexer where
  /-- The tokens so far, the last first. -/
  tokens : List Token := []
  /-- The column of the innermost block collection, and those around it; -1 outside all. -/
  indent : Int := -1
  outer : List Int := []
  /-- The possible key of each level of brackets, the innermost first, and that outside brackets. -/
  flowKeys : List (Option SimpleKey) := []
  blockKey : Option SimpleKey := none
  /-- Whether a key may start here. -/
  keyAllowed : Bool := true

namespace Lexer

/-- Whether the text here is inside brackets. -/
def inFlow (l : Lexer) : Bool := !l.flowKeys.isEmpty

def push (l : Lexer) (token : Token) : Lexer := { l with tokens := token :: l.tokens }

/-- A token put in behind a number of others. -/
def insert (l : Lexer) (place : Nat) (token : Token) : Lexer :=
  let behind := l.tokens.length - place
  { l with tokens := l.tokens.take behind ++ token :: l.tokens.drop behind }

def key? (l : Lexer) : Option SimpleKey :=
  match l.flowKeys with
  | key :: _ => key
  | [] => l.blockKey

def setKey (l : Lexer) (key : Option SimpleKey) : Lexer :=
  match l.flowKeys with
  | _ :: keys => { l with flowKeys := key :: keys }
  | [] => { l with blockKey := key }

/-- Forgets the possible key of the innermost level, unless it had to be one. -/
def dropKey? (l : Lexer) : Option Lexer :=
  if l.key?.any (·.required) then none else some (l.setKey none)

/-- Remembers that a key may start here. -/
def saveKey? (l : Lexer) (c : Cursor) : Option Lexer :=
  if !l.keyAllowed then some l
  else do
    let required := !l.inFlow && l.indent = (c.column : Int)
    return (← l.dropKey?).setKey (some ⟨required, l.tokens.length, c.index, c.line, c.column⟩)

/-- How long a key without a sign of its own may be. -/
def maxKeyLength : Nat := 1024

/-- Whether a possible key lies too far back: on another line, or too many characters. -/
def isStale (key : SimpleKey) (c : Cursor) : Bool :=
  key.line < c.line || key.index + maxKeyLength < c.index

/-- Forgets a possible key that lies too far back, unless it had to be one. -/
def freshKey? (c : Cursor) : Option SimpleKey → Option (Option SimpleKey)
  | none => some none
  | some key =>
      if !isStale key c then some (some key) else if key.required then none else some none

/-- Forgets all possible keys that lie too far back. -/
def dropStale? (l : Lexer) (c : Cursor) : Option Lexer := do
  return { l with
    flowKeys := ← l.flowKeys.mapM (freshKey? c)
    blockKey := ← freshKey? c l.blockKey }

/-- Closes the block collections that are indented deeper than a column. -/
def unroll (l : Lexer) (column : Int) : Lexer :=
  if l.inFlow then l else go l l.outer
where
  /-- Closes collections while there are any, from the innermost on. -/
  go (l : Lexer) : List Int → Lexer
    | [] => l
    | indent :: outer =>
        if column < l.indent then go { l.push .blockEnd with indent, outer } outer else l

/-- Opens a block collection at a column, unless one is open there. Its token comes behind a number
of others. -/
def roll (l : Lexer) (column place : Nat) (token : Token) : Lexer :=
  if l.inFlow || (column : Int) ≤ l.indent then l
  else { l.insert place token with indent := column, outer := l.indent :: l.outer }

/-- Whether keys may start, from now on. -/
def allowing (l : Lexer) (allowed : Bool) : Lexer := { l with keyAllowed := allowed }

/-- The state before the next token: behind blanks, comments and line breaks. Tabs count as blanks
only where no key may start. -/
def gapStep (l : Lexer) (c : Cursor) : Cursor.Move Lexer Lexer :=
  if c.column = 0 && c.sees '\ufeff' then .next l c.skip
  else if c.sees ' ' || ((l.inFlow || !l.keyAllowed) && c.sees '\t') then .next l c.skip
  else if c.sees '#' then .next l (c.skipAll fun char => !isBreak char)
  else
    match c.lineBreak? with
    | some (_, after) => .next (if l.inFlow then l else l.allowing true) after
    | none => .done l c

/-- Ends all block collections, before a directive or the sign of a document. -/
def endBlocks? (l : Lexer) : Option Lexer := do
  return (← (l.unroll (-1)).dropKey?).allowing false

def finish? (l : Lexer) : Option Lexer := do
  return (← l.endBlocks?).push .streamEnd

def openFlow? (l : Lexer) (c : Cursor) (token : Token) : Option Lexer := do
  let l ← l.saveKey? c
  return ({ l with flowKeys := none :: l.flowKeys }.allowing true).push token

def closeFlow? (l : Lexer) (token : Token) : Option Lexer := do
  let l ← l.dropKey?
  return ({ l with flowKeys := l.flowKeys.tail }.allowing false).push token

def blockEntry? (l : Lexer) (c : Cursor) : Option Lexer :=
  if !l.inFlow && !l.keyAllowed then none
  else do
    let l := l.roll c.column l.tokens.length .blockSequenceStart
    return ((← l.dropKey?).allowing true).push .blockEntry

def keySign? (l : Lexer) (c : Cursor) : Option Lexer :=
  if !l.inFlow && !l.keyAllowed then none
  else do
    let l := l.roll c.column l.tokens.length .blockMappingStart
    return ((← l.dropKey?).allowing (!l.inFlow)).push .key

/-- The sign of a value. What came before it on the line is the key, if it may be one. -/
def valueSign? (l : Lexer) (c : Cursor) : Option Lexer :=
  match l.key? with
  | some key =>
      let l := l.insert key.place .key
      let l := l.roll key.column key.place .blockMappingStart
      some (((l.setKey none).allowing false).push .value)
  | none =>
      if !l.inFlow && !l.keyAllowed then none
      else
        let l := l.roll c.column l.tokens.length .blockMappingStart
        some ((l.allowing (!l.inFlow)).push .value)

/-- Whether a plain scalar can start here. -/
def startsPlain (l : Lexer) (c : Cursor) : Bool :=
  let signs := "-?:,[]\x7b\x7d#&*!|>'\"%@\x60".toList
  (!c.atGap && !c.seesSome signs.contains) ||
    (c.sees '-' && !c.seesSome isBlank 1) ||
    (!l.inFlow && (c.sees '?' || c.sees ':') && !c.atGap 1)

def scalarToken? (l : Lexer) (c : Cursor) (read : Option ((Token × Option Bool) × Cursor)) :
    Option (Lexer × Cursor) := do
  let l ← l.saveKey? c
  let ((token, allowed), after) ← read
  return ((l.allowing (allowed.getD false)).push token, after)

/-- A plain scalar; after a line break a key may start. -/
def plain? (l : Lexer) (c : Cursor) : Option (Lexer × Cursor) :=
  l.scalarToken? c do
    let ((text, broken), after) ← plainScalar? l.inFlow (l.indent + 1).toNat c
    return ((.scalar text .plain, if broken then some true else none), after)

def quoted? (l : Lexer) (c : Cursor) (double : Bool) : Option (Lexer × Cursor) :=
  l.scalarToken? c do
    let (text, after) ← quotedScalar? double c
    return ((.scalar text .quoted, none), after)

/-- An anchor, an alias or a tag, which may belong to a key. -/
def property? (l : Lexer) (c : Cursor) (read : Option (Token × Cursor)) : Option (Lexer × Cursor) :=
  l.scalarToken? c (read.map fun (token, after) => ((token, none), after))

def block? (l : Lexer) (c : Cursor) (folded : Bool) : Option (Lexer × Cursor) := do
  let l ← l.dropKey?
  let (text, after) ← blockScalar? folded l.indent c
  return ((l.allowing true).push (.scalar text (if folded then .folded else .literal)), after)

/-- The token that starts here, after the indentation has been looked at. -/
def token? (l : Lexer) (c : Cursor) : Option (Lexer × Cursor) :=
  let one (l : Option Lexer) : Option (Lexer × Cursor) := l.map fun l => (l, c.skip)
  if c.column = 0 && c.sees '%' then do
    let l ← l.endBlocks?
    let (token, after) ← directive? c
    return (l.push token, after)
  else if c.atDocumentSign then do
    let l ← l.endBlocks?
    return (l.push (if c.sees '-' then .documentStart else .documentEnd), c.skip 3)
  else if c.sees '[' then one (l.openFlow? c .flowSequenceStart)
  else if c.sees '\x7b' then one (l.openFlow? c .flowMappingStart)
  else if c.sees ']' then one (l.closeFlow? .flowSequenceEnd)
  else if c.sees '\x7d' then one (l.closeFlow? .flowMappingEnd)
  else if c.sees ',' then one (l.dropKey?.map fun l => (l.allowing true).push .flowEntry)
  else if c.sees '-' && c.atGap 1 then one (l.blockEntry? c)
  else if c.sees '?' && (l.inFlow || c.atGap 1) then one (l.keySign? c)
  else if c.sees ':' && (l.inFlow || c.atGap 1) then one (l.valueSign? c)
  else if c.sees '*' then
    l.property? c ((anchorName? c).map fun (name, after) => (.alias name, after))
  else if c.sees '&' then
    l.property? c ((anchorName? c).map fun (name, after) => (.anchor name, after))
  else if c.sees '!' then l.property? c (tag? l.inFlow c)
  else if c.sees '|' && !l.inFlow then l.block? c false
  else if c.sees '>' && !l.inFlow then l.block? c true
  else if c.sees '\'' then l.quoted? c false
  else if c.sees '"' then l.quoted? c true
  else if l.startsPlain c then l.plain? c
  else none

/-- One step: to the next token, and past it. -/
def step (l : Lexer) (c : Cursor) : Cursor.Move Lexer (List Token) :=
  match c.iterate gapStep l with
  | none => .fail
  | some (l, c) =>
      match l.dropStale? c with
      | none => .fail
      | some l =>
          if c.rest.isEmpty then
            match l.finish? with
            | some l => .done l.tokens.reverse c
            | none => .fail
          else
            match (l.unroll c.column).token? c with
            | some (l, after) => .next l after
            | none => .fail

end Lexer

def tokens? (text : List Char) : Option (List Token) :=
  if text.all isAllowed then
    ((Cursor.start text).iterate Lexer.step {}).map (·.1)
  else none

end RoleSecrets.Yaml
