import RoleSecrets.Yaml.Lexer

/-! # YAML documents

A document is a tree of scalars, sequences and mappings. It is built from tokens one at a time by a
stack of frames: collections that are still open, and places where a node is due. An alias stands
for the node its anchor was put on last.
-/

namespace RoleSecrets.Yaml

inductive Node
  | scalar (text : String) (style : Style) (tag : Option String)
  | sequence (items : List Node)
  | mapping (entries : List (Node × Node))
  /-- An alias of a collection that the alias itself is part of. -/
  | enclosing
deriving Inhabited

/-- The node where a text leaves one out. -/
def Node.empty : Node := .scalar "" .plain none

inductive Slot
  /-- A document without a sign of its own. -/
  | document
  /-- A document behind the sign that begins it. -/
  | content
  | blockItem
  /-- An item of a sequence that is not indented deeper than the mapping around it. -/
  | looseItem
  /-- A key or a value of a block mapping. -/
  | blockPart
  /-- An item of a flow sequence, or a key of a flow mapping without a sign of its own. -/
  | flowItem
  /-- The key of a pair among the items of a flow sequence. -/
  | pairKey
  | pairValue
  | flowKey
  | flowValue
deriving DecidableEq

namespace Slot

/-- Whether a token shows that the node was left out. -/
def isLeftOut (slot : Slot) (token : Token) : Bool :=
  match slot with
  | document | flowItem => false
  | content => match token with
    | .versionDirective .. | .tagDirective .. | .documentStart | .documentEnd | .streamEnd => true
    | _ => false
  | blockItem => token = .blockEntry || token = .blockEnd
  | looseItem => token = .blockEntry || token = .key || token = .value || token = .blockEnd
  | blockPart => token = .key || token = .value || token = .blockEnd
  | pairKey => token = .value || token = .flowEntry || token = .flowSequenceEnd
  | pairValue => token = .flowEntry || token = .flowSequenceEnd
  | flowKey => token = .value || token = .flowEntry || token = .flowMappingEnd
  | flowValue => token = .flowEntry || token = .flowMappingEnd

/-- Whether a block collection may start there. -/
def isBlock : Slot → Bool
  | document | content | blockItem | looseItem | blockPart => true
  | _ => false

end Slot

/-- An anchor and a tag before a node. -/
structure Properties where
  anchor : Option String := none
  tag : Option String := none

namespace Properties

def isEmpty (p : Properties) : Bool := p.anchor.isNone && p.tag.isNone

end Properties

/-- A collection that is still open, or a place where a node is due. -/
inductive Frame
  | node (slot : Slot) (properties : Properties)
  | blockSequence (anchor : Option String) (items : List Node)
  | looseSequence (anchor : Option String) (items : List Node)
  /-- The key is the one whose value is still to come. -/
  | blockMapping (anchor : Option String) (entries : List (Node × Node)) (key : Option Node)
  /-- Whether an item is due, and not a comma. -/
  | flowSequence (anchor : Option String) (items : List Node) (due : Bool)
  /-- A pair among the items of a flow sequence. -/
  | pair (key : Option Node)
  /-- Besides the key without a value: whether an entry is due, and not a comma, and whether the key
  that is being read has no sign and so no value. -/
  | flowMapping (anchor : Option String) (entries : List (Node × Node)) (key : Option Node)
      (due bare : Bool)

/-- What a frame makes of a token. -/
inductive Reaction
  | fail
  /-- The token is used up, and these frames take the place of the frame. -/
  | goOn (frames : List Frame)
  /-- The node of the frame is whole; the token is used up or still to be looked at. -/
  | whole (anchor : Option String) (node : Node) (used : Bool)

/-- The stack of frames with what is known about the documents. -/
structure Builder where
  frames : List Frame := []
  /-- The documents so far, in reverse. -/
  documents : List Node := []
  /-- The anchors of the current document, the latest first. -/
  anchors : List (String × Node) := []
  /-- What the tag handles of the current document stand for. -/
  handles : List (String × String) := []
  /-- Whether there is a directive with the version of the language. -/
  versioned : Bool := false
  /-- Whether any directive was read since the last document. -/
  directed : Bool := false
  /-- Whether the sign that ends the last document may follow. -/
  closable : Bool := false
  finished : Bool := false

namespace Builder

/-- What the common tag handles stand for. -/
def commonHandles : List (String × String) := [("!", "!"), ("!!", "tag:yaml.org,2002:")]

def tag? (b : Builder) (handle suffix : String) : Option String :=
  if handle = "" then some suffix
  else ((b.handles ++ commonHandles).lookup handle).map fun start => start ++ suffix

/-- The tag of a scalar with a text; a lone exclamation mark is none. -/
def scalarTag (tag : Option String) : Option String := tag.filter (· ≠ "!")

/-- What a place where a node is due makes of a token. -/
def reactNode (b : Builder) (slot : Slot) (p : Properties) (token : Token) : Reaction :=
  let leftOut : Reaction :=
    if p.isEmpty then .fail else .whole p.anchor (.scalar "" .plain p.tag) false
  if p.isEmpty && slot.isLeftOut token then .whole none .empty (slot = .pairKey)
  else
    match token with
    | .anchor name =>
        if p.anchor.isNone then .goOn [.node slot { p with anchor := some name }] else leftOut
    | .tag handle suffix =>
        if p.tag.isSome then leftOut
        else match b.tag? handle suffix with
          | some tag => .goOn [.node slot { p with tag := some tag }]
          | none => .fail
    | .alias name =>
        if p.isEmpty then
          match b.anchors.lookup name with
          | some node => .whole none node true
          | none => .fail
        else leftOut
    | .scalar text style => .whole p.anchor (.scalar text style (scalarTag p.tag)) true
    | .flowSequenceStart => .goOn [.flowSequence p.anchor [] true]
    | .flowMappingStart => .goOn [.flowMapping p.anchor [] none true false]
    | .blockSequenceStart =>
        if slot.isBlock then .goOn [.blockSequence p.anchor []] else leftOut
    | .blockMappingStart =>
        if slot.isBlock then .goOn [.blockMapping p.anchor [] none] else leftOut
    | .blockEntry =>
        if slot = .blockPart then .goOn [.node .looseItem {}, .looseSequence p.anchor []]
        else leftOut
    | _ => leftOut

/-- What an open block mapping makes of a token once no value is due. -/
def reactBlockMapping (anchor : Option String) (entries : List (Node × Node)) (token : Token) :
    Reaction :=
  match token with
  | .key => .goOn [.node .blockPart {}, .blockMapping anchor entries none]
  | .blockEnd => .whole anchor (.mapping entries) true
  | _ => .fail

/-- What an open flow mapping makes of a token once no value is due. -/
def reactFlowMapping (anchor : Option String) (entries : List (Node × Node)) (token : Token) :
    Reaction :=
  match token with
  | .flowMappingEnd => .whole anchor (.mapping entries) true
  | .flowEntry => .goOn [.flowMapping anchor entries none true false]
  | _ => .fail

/-- What the innermost frame makes of a token. A node that starts at once in a flow collection is a
reaction of its own; the collection then stays below it, as the frame beside the reaction. -/
def react (b : Builder) (frame : Frame) (token : Token) : Reaction × List Frame :=
  match frame with
  | .node slot p => (b.reactNode slot p token, [])
  | .blockSequence anchor items =>
      match token with
      | .blockEntry => (.goOn [.node .blockItem {}, .blockSequence anchor items], [])
      | .blockEnd => (.whole anchor (.sequence items) true, [])
      | _ => (.fail, [])
  | .looseSequence anchor items =>
      match token with
      | .blockEntry => (.goOn [.node .looseItem {}, .looseSequence anchor items], [])
      | _ => (.whole anchor (.sequence items) false, [])
  | .blockMapping anchor entries none => (reactBlockMapping anchor entries token, [])
  | .blockMapping anchor entries (some key) =>
      match token with
      | .value => (.goOn [.node .blockPart {}, .blockMapping anchor entries (some key)], [])
      | _ => (reactBlockMapping anchor (entries ++ [(key, .empty)]) token, [])
  | .flowSequence anchor items due =>
      match token with
      | .flowSequenceEnd => (.whole anchor (.sequence items) true, [])
      | .flowEntry => (if due then .fail else .goOn [.flowSequence anchor items true], [])
      | .key =>
          (if due then .goOn [.node .pairKey {}, .pair none, .flowSequence anchor items true]
            else .fail, [])
      | _ => if due then (b.reactNode .flowItem {} token, [.flowSequence anchor items true])
          else (.fail, [])
  | .pair none => (.fail, [])
  | .pair (some key) =>
      match token with
      | .value => (.goOn [.node .pairValue {}, .pair (some key)], [])
      | _ => (.whole none (.mapping [(key, .empty)]) false, [])
  | .flowMapping anchor entries (some key) due bare =>
      match token with
      | .value =>
          (.goOn [.node .flowValue {}, .flowMapping anchor entries (some key) due bare], [])
      | _ => (reactFlowMapping anchor (entries ++ [(key, .empty)]) token, [])
  | .flowMapping anchor entries none due _ =>
      match token with
      | .flowMappingEnd => (.whole anchor (.mapping entries) true, [])
      | .key =>
          (if due then .goOn [.node .flowKey {}, .flowMapping anchor entries none true false]
            else .fail, [])
      | _ =>
          if due then (b.reactNode .flowItem {} token, [.flowMapping anchor entries none true true])
          else (reactFlowMapping anchor entries token, [])

/-- The frames after a whole node has been put into the innermost of them. A pair that gets its value
is whole in turn. The node is returned where there is no frame. -/
def put (node : Node) : List Frame → Option Node × List Frame
  | [] => (some node, [])
  | .node .. :: frames => (none, frames)
  | .blockSequence anchor items :: frames =>
      (none, .blockSequence anchor (items ++ [node]) :: frames)
  | .looseSequence anchor items :: frames =>
      (none, .looseSequence anchor (items ++ [node]) :: frames)
  | .blockMapping anchor entries none :: frames =>
      (none, .blockMapping anchor entries (some node) :: frames)
  | .blockMapping anchor entries (some key) :: frames =>
      (none, .blockMapping anchor (entries ++ [(key, node)]) none :: frames)
  | .flowSequence anchor items _ :: frames =>
      (none, .flowSequence anchor (items ++ [node]) false :: frames)
  | .pair none :: frames => (none, .pair (some node) :: frames)
  | .pair (some key) :: frames => put (.mapping [(key, node)]) frames
  | .flowMapping anchor entries none _ true :: frames =>
      (none, .flowMapping anchor (entries ++ [(node, .empty)]) none false false :: frames)
  | .flowMapping anchor entries none _ false :: frames =>
      (none, .flowMapping anchor entries (some node) false false :: frames)
  | .flowMapping anchor entries (some key) _ _ :: frames =>
      (none, .flowMapping anchor (entries ++ [(key, node)]) none false false :: frames)

/-- The anchor of a frame that is a collection. -/
def anchor? : Frame → Option String
  | .node .. | .pair _ => none
  | .blockSequence anchor _ | .looseSequence anchor _ | .blockMapping anchor ..
  | .flowSequence anchor .. | .flowMapping anchor .. => anchor

/-- Notes what an anchor stands for. -/
def note (b : Builder) (anchor : Option String) (node : Node) : Builder :=
  match anchor with
  | some name => { b with anchors := (name, node) :: b.anchors }
  | none => b

/-- Puts a whole node in its place among frames. -/
def deliver (b : Builder) (anchor : Option String) (node : Node) (frames : List Frame) : Builder :=
  let b := b.note anchor node
  match put node frames with
  | (some document, frames) =>
      { b with frames, documents := document :: b.documents, closable := true }
  | (none, frames) => { b with frames }

/-- Goes on with other frames; the anchor of a collection that starts is noted. -/
def goOn (b : Builder) (frames below : List Frame) : Builder :=
  let b := match frames with
    | frame :: _ => b.note (anchor? frame) .enclosing
    | [] => b
  { b with frames := frames ++ below }

def begin (b : Builder) : Builder :=
  { b with anchors := [], directed := false, closable := false }

/-- Ends a document and what its directives say. -/
def clear (b : Builder) : Builder := { b with handles := [], versioned := false, closable := false }

/-- What a token between documents does. -/
def between? (b : Builder) (token : Token) : Option Builder :=
  match token with
  | .documentEnd =>
      if b.closable then some b.clear
      else if b.documents.isEmpty || b.directed then none
      else some b
  | .streamEnd => if b.directed then none else some { b with finished := true }
  | .versionDirective major minor =>
      let b := if b.directed then b else b.clear
      if b.versioned || major ≠ 1 || (minor ≠ 1 && minor ≠ 2) then none
      else some { b with versioned := true, directed := true }
  | .tagDirective handle start =>
      let b := if b.directed then b else b.clear
      if (b.handles.lookup handle).isSome then none
      else some { b with handles := (handle, start) :: b.handles, directed := true }
  | .documentStart =>
      let b := if b.directed then b else b.clear
      some { b.begin with frames := [.node .content {}] }
  | token =>
      if b.directed || !b.documents.isEmpty then none
      else match b.begin.reactNode .document {} token with
        | .fail => none
        | .goOn frames => some (b.begin.goOn frames [])
        | .whole anchor node _ => some (b.begin.deliver anchor node [])

/-- The builder after one more token. -/
def feed? (b : Builder) (token : Token) : Option Builder :=
  match b.frames with
  | [] => if b.finished then none else b.between? token
  | frame :: below =>
      match b.react frame token with
      | (.fail, _) => none
      | (.goOn frames, kept) => some (b.goOn frames (kept ++ below))
      | (.whole anchor node used, kept) =>
          let after := b.deliver anchor node (kept ++ below)
          if used then some after
          else if after.frames.length < b.frames.length then feed? after token
          else none
termination_by b.frames.length
decreasing_by omega

end Builder

def documents? (text : List Char) : Option (List Node) := do
  let b ← (← tokens? text).foldlM Builder.feed? {}
  if b.finished then return b.documents.reverse else none

end RoleSecrets.Yaml
