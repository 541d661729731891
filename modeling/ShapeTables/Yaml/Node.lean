import ShapeTables.Yaml.Implicit
import ShapeTables.Yaml.Stream

/-! Nodes. A text holds at most one document, and a document is a graph of tagged nodes. An alias stands for the
node with its anchor, which may be a node around it, so that a node can hold itself. -/
namespace ShapeTables.Yaml

/-- What is written at a node; the nodes in it are known by their numbers. -/
inductive Body where
  | scalar (text : String)
  | sequence (items : List Nat)
  | mapping (members : List (Nat × Nat))
deriving DecidableEq, Repr, Inhabited

structure Node where
  tag : Tag
  body : Body
deriving DecidableEq, Repr, Inhabited

/-- The nodes of a document by their numbers. -/
abbrev Graph := Array Node

/-- What is left of a token stream, with what the tokens before have declared. -/
structure Source where
  tokens : List Token
  /-- Why there are no tokens after these. -/
  stop : Failure
  /-- The nodes so far; one that is still being read has no parts. -/
  nodes : Graph := #[]
  anchors : List (String × Nat) := []
  /-- The leads that handles of tags stand for. -/
  handles : List (String × String) := []

abbrev Parser := StateT Source (Except Failure)

namespace Parser

def peek : Parser Token := do
  match (← get).tokens with
  | t :: _ => return t
  | [] => throw (← get).stop

def skip : Parser Unit := modify fun s => { s with tokens := s.tokens.drop 1 }

def fail : Parser α := throw .malformed

/-- The next token has to be the given one. -/
def expect (t : Token) : Parser Unit := do
  if (← peek) = t then skip else fail

def isOneOf (choices : List Token) (t : Token) : Bool := choices.contains t

/-! ### Properties -/

structure Properties where
  anchor : Option String := none
  /-- The full tag. -/
  tag : Option String := none

def fullTag (handle : Option String) (suffix : String) : Parser String := do
  match handle with
  | none => return suffix
  | some handle => match (← get).handles.lookup handle with
    | some lead => return lead ++ suffix
    | none => fail

/-- An anchor and a tag, in either order. The handle of the tag is looked up after both are read. -/
def readProperties : Parser Properties := do
  match ← peek with
  | .anchor name =>
    skip
    match ← peek with
    | .tag handle suffix =>
      skip
      return ⟨some name, some (← fullTag handle suffix)⟩
    | _ => return ⟨some name, none⟩
  | .tag handle suffix =>
    skip
    match ← peek with
    | .anchor name =>
      skip
      return ⟨some name, some (← fullTag handle suffix)⟩
    | _ => return ⟨none, some (← fullTag handle suffix)⟩
  | _ => return {}

/-- The tag of a collection. A lone exclamation mark says nothing. -/
def Properties.collectionTag (p : Properties) (default : Tag) : Tag :=
  match p.tag with
  | none | some "!" => default
  | some name => Tag.ofName name

/-- The tag of a scalar. One that is plain, or has a lone exclamation mark, has the tag of its spelling. -/
def Properties.scalarTag (p : Properties) (text : String) (plain : Bool) : Tag :=
  match p.tag with
  | none => if plain then implicitTag text else .str
  | some "!" => implicitTag text
  | some name => Tag.ofName name

/-- Adds a node. -/
def addNode (node : Node) : Parser Nat := do
  let id := (← get).nodes.size
  modify fun s => { s with nodes := s.nodes.push node }
  return id

/-- Adds a node that is about to be read and declares its anchor; no two nodes have the same. -/
def openNode (p : Properties) (tag : Tag) : Parser Nat := do
  let id ← addNode ⟨tag, .sequence []⟩
  match p.anchor with
  | none => return id
  | some name =>
    if ((← get).anchors.lookup name).isSome then fail
    modify fun s => { s with anchors := (name, id) :: s.anchors }
    return id

/-- A node is read. -/
def closeNode (id : Nat) (tag : Tag) (body : Body) : Parser Nat := do
  modify fun s => { s with nodes := s.nodes.setIfInBounds id ⟨tag, body⟩ }
  return id

/-- The node that an alias stands for. -/
def findAnchor (name : String) : Parser Nat := do
  match (← get).anchors.lookup name with
  | some id => return id
  | none => fail

/-- A node that is not written. -/
def emptyNode : Parser Nat := addNode ⟨.null, .scalar ""⟩

/-! ### Nodes -/

/-- What may be read where a node is expected. -/
structure Expected where
  block : Bool
  /-- Whether a block sequence may stand at the indentation of the mapping around it. -/
  indentless : Bool := false

mutual

/-- A node, with at most `fuel` steps into it and beside it. -/
def readNode (expected : Expected) : Nat → Parser Nat
  | 0 => fail
  | fuel + 1 => do
    match ← peek with
    | .alias name =>
      skip
      findAnchor name
    | _ =>
      let p ← readProperties
      let next ← peek
      let sequence := p.collectionTag .seq
      let mapping := p.collectionTag .map
      if expected.indentless && next == .blockEntry then
        let id ← openNode p sequence
        closeNode id sequence (.sequence (← readIndentless fuel))
      else match next with
        | .scalar text plain =>
          skip
          let tag := p.scalarTag text plain
          let id ← openNode p tag
          closeNode id tag (.scalar text)
        | .flowSequenceStart =>
          skip
          let id ← openNode p sequence
          closeNode id sequence (.sequence (← readFlowItems true fuel))
        | .flowMappingStart =>
          skip
          let id ← openNode p mapping
          closeNode id mapping (.mapping (← readFlowMembers true fuel))
        | .blockSequenceStart =>
          if !expected.block then fail
          skip
          let id ← openNode p sequence
          closeNode id sequence (.sequence (← readBlockItems fuel))
        | .blockMappingStart =>
          if !expected.block then fail
          skip
          let id ← openNode p mapping
          closeNode id mapping (.mapping (← readBlockMembers fuel))
        | _ =>
          if p.anchor.isNone && p.tag.isNone then fail
          let tag := p.scalarTag "" true
          let id ← openNode p tag
          closeNode id tag (.scalar "")

/-- A node, unless one of the given tokens shows that none is written. -/
def readUnless (closing : List Token) (expected : Expected) : Nat → Parser Nat
  | 0 => fail
  | fuel + 1 => do
    if isOneOf closing (← peek) then emptyNode else readNode expected fuel

def readBlockItems : Nat → Parser (List Nat)
  | 0 => fail
  | fuel + 1 => do
    match ← peek with
    | .blockEntry =>
      skip
      let node ← readUnless [.blockEntry, .blockEnd] ⟨true, false⟩ fuel
      return node :: (← readBlockItems fuel)
    | .blockEnd =>
      skip
      return []
    | _ => fail

def readIndentless : Nat → Parser (List Nat)
  | 0 => fail
  | fuel + 1 => do
    if (← peek) = .blockEntry then
      skip
      let node ← readUnless [.blockEntry, .key, .value, .blockEnd] ⟨true, false⟩ fuel
      return node :: (← readIndentless fuel)
    else return []

def readBlockMembers : Nat → Parser (List (Nat × Nat))
  | 0 => fail
  | fuel + 1 => do
    match ← peek with
    | .key =>
      skip
      let key ← readUnless [.key, .value, .blockEnd] ⟨true, true⟩ fuel
      let value ← readBlockValue fuel
      return (key, value) :: (← readBlockMembers fuel)
    | .blockEnd =>
      skip
      return []
    | _ => fail

def readBlockValue : Nat → Parser Nat
  | 0 => fail
  | fuel + 1 => do
    if (← peek) = .value then
      skip
      readUnless [.key, .value, .blockEnd] ⟨true, true⟩ fuel
    else emptyNode

/-- The items of a flow sequence. One that is written as a key or a pair is a mapping of one member. -/
def readFlowItems (first : Bool) : Nat → Parser (List Nat)
  | 0 => fail
  | fuel + 1 => do
    if (← peek) = .flowSequenceEnd then
      skip
      return []
    if !first then expect .flowEntry
    match ← peek with
    | .flowSequenceEnd =>
      skip
      return []
    | .key =>
      skip
      let key ← readUnless [.value, .flowEntry, .flowSequenceEnd] ⟨false, false⟩ fuel
      let value ← readFlowValue .flowSequenceEnd fuel
      let id ← addNode ⟨.map, .mapping [(key, value)]⟩
      return id :: (← readFlowItems false fuel)
    | _ =>
      let node ← readNode ⟨false, false⟩ fuel
      return node :: (← readFlowItems false fuel)

/-- The members of a flow mapping. A key without a colon has no value. -/
def readFlowMembers (first : Bool) : Nat → Parser (List (Nat × Nat))
  | 0 => fail
  | fuel + 1 => do
    if (← peek) = .flowMappingEnd then
      skip
      return []
    if !first then expect .flowEntry
    match ← peek with
    | .flowMappingEnd =>
      skip
      return []
    | .key =>
      skip
      let key ← readUnless [.value, .flowEntry, .flowMappingEnd] ⟨false, false⟩ fuel
      let value ← readFlowValue .flowMappingEnd fuel
      return (key, value) :: (← readFlowMembers false fuel)
    | _ =>
      let key ← readNode ⟨false, false⟩ fuel
      let value ← emptyNode
      return (key, value) :: (← readFlowMembers false fuel)

def readFlowValue (closing : Token) : Nat → Parser Nat
  | 0 => fail
  | fuel + 1 => do
    if (← peek) = .value then
      skip
      readUnless [.flowEntry, closing] ⟨false, false⟩ fuel
    else emptyNode

end

/-! ### Documents -/

/-- The handles that every document has. -/
def defaultHandles : List (String × String) := [("!", "!"), ("!!", Tag.lead)]

/-- The directives in front of a document: at most one version, which has to be 1, and at most one lead for
each handle. -/
def readDirectives (hasVersion : Bool) (handles : List (String × String)) :
    Nat → Parser (List (String × String))
  | 0 => fail
  | fuel + 1 => do
    match ← peek with
    | .directive (.version major _) =>
      if hasVersion || major != 1 then fail
      skip
      readDirectives true handles fuel
    | .directive (.tag handle lead) =>
      if (handles.lookup handle).isSome then fail
      skip
      readDirectives hasVersion ((handle, lead) :: handles) fuel
    | .directive .other =>
      skip
      readDirectives hasVersion handles fuel
    | _ => return handles

def skipDocumentEnds : Nat → Parser Unit
  | 0 => return
  | fuel + 1 => do
    if (← peek) = .documentEnd then
      skip
      skipDocumentEnds fuel

def isDocumentMark : Token → Bool
  | .directive _ | .documentStart | .documentEnd | .streamEnd => true
  | _ => false

/-- The node of the only document, if there is one. -/
def readDocument (fuel : Nat) : Parser (Option Nat) := do
  match ← peek with
  | .streamEnd => return none
  | .directive _ | .documentStart =>
    let handles ← readDirectives false [] fuel
    expect .documentStart
    modify fun s => { s with handles := handles ++ defaultHandles }
    let node ← if isDocumentMark (← peek) then emptyNode else readNode ⟨true, false⟩ fuel
    finish node
  | _ =>
    modify fun s => { s with handles := defaultHandles }
    let node ← readNode ⟨true, false⟩ fuel
    finish node
where
  /-- Nothing but ends of documents may follow. -/
  finish (node : Nat) : Parser (Option Nat) := do
    skipDocumentEnds fuel
    expect .streamEnd
    return some node

end Parser

/-- The nodes of a text and the number of the one that it stands for. Every token is read in at most three
steps. -/
def Graph.read (cs : List Char) : Except Failure (Option (Graph × Nat)) := do
  let stream := Stream.scan cs
  let (root, source) ← (Parser.readDocument (3 * stream.tokens.length + 3)).run
    { tokens := stream.tokens, stop := stream.stop }
  return root.map fun id => (source.nodes, id)

end ShapeTables.Yaml
