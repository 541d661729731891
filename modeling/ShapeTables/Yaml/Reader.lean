import ShapeTables.Text.Base64
import ShapeTables.Value.Order
import ShapeTables.Yaml.Merge
import ShapeTables.Yaml.Number

/-! Reading YAML. The tag of a node says which value it stands for. A scalar has its value at once; a collection
is known first and gets its parts later, in the order in which the collections have become known, so that it can
hold itself, and so that of several failures the one on the uppermost level is reported. Of two members of a
mapping with equal keys the later gives the value and the earlier the key. Only scalars can be keys. -/
namespace ShapeTables.Yaml

/-! ### Scalars -/

/-- The value of the first value key. -/
def valueKey? (g : Graph) (members : List (Nat × Nat)) : Option Nat :=
  (members.find? fun (key, _) => (g[key]?.map Node.tag) == some .value).map Prod.snd

/-- The text of a node where a scalar is expected. A mapping has the text of its value key. -/
def scalarText (g : Graph) : Nat → Nat → Except Failure String
  | 0, _ => .error .cyclic
  | fuel + 1, id => match g[id]?.map Node.body with
    | some (.scalar text) => .ok text
    | some (.mapping members) => match valueKey? g members with
      | some value => scalarText g fuel value
      | none => .error .malformed
    | _ => .error .malformed

def readBool (s : String) : Except Failure Bool :=
  let word := Text.lower s
  if trueWords.contains word then .ok true
  else if falseWords.contains word then .ok false
  else .error (.unknownWord word)

def readBinary (s : String) : Except Failure (List UInt8) :=
  if s.toList.all fun c => c.toNat < 0x80 then
    match Text.base64? s.toList with
    | some octets => .ok octets
    | none => .error .malformed
  else .error .malformed

/-- The scalar of a text under a tag; no other tags are those of scalars. What is not a number gets the given
mark. -/
def readScalar (mark : Nat) (tag : Tag) (text : String) : Except Failure Scalar :=
  match tag with
  | .null => .ok .null
  | .bool => (readBool text).map .bool
  | .int => (readInt text).map .int
  | .float => readDouble mark text
  | .binary => (readBinary text).map .bytes
  | .timestamp => (Moment.ofText text).map .moment
  | .str => .ok (.text text)
  | _ => .error .malformed

/-- The scalar that a node stands for. A moment has to be written as a scalar itself. -/
def scalarAt (g : Graph) (id : Nat) (node : Node) : Except Failure Scalar := do
  let text ← scalarText g (g.size + 1) id
  match node.tag, node.body with
  | .timestamp, .mapping _ => throw .mappedMoment
  | tag, _ => readScalar (id + 1) tag text

/-! ### Collections -/

/-- What a node stands for, the parts of a collection by their nodes. -/
inductive Item where
  | scalar (s : Scalar)
  | list (items : List Nat)
  | pairs (items : List (Nat × Nat))
  | map (members : List (Scalar × Nat))
  | set (members : List Scalar)
deriving Inhabited

structure Progress where
  graph : Graph
  /-- What is known of the nodes. -/
  items : Array (Option Item)
  /-- The collections whose parts are not known yet, the latest first. -/
  waiting : List Nat := []

abbrev Build := StateT Progress (Except Failure)

namespace Build

def fail : Build α := throw .malformed

def setItem (id : Nat) (item : Item) : Build Unit :=
  modify fun p => { p with items := p.items.setIfInBounds id (some item) }

/-- Makes a collection known without its parts. -/
def openCollection (id : Nat) (item : Item) : Build Item := do
  setItem id item
  modify fun p => { p with waiting := id :: p.waiting }
  return item

/-- Makes a node known. -/
def touch (id : Nat) : Build Item := do
  let p ← get
  match p.items[id]?.join with
  | some item => return item
  | none =>
    let node := p.graph[id]?.getD default
    match node.tag with
    | .seq => openCollection id (.list [])
    | .omap | .pairs => openCollection id (.pairs [])
    | .map => openCollection id (.map [])
    | .set => openCollection id (.set [])
    | .merge | .value | .unknown _ => fail
    | _ =>
      let item := Item.scalar (← scalarAt p.graph id node)
      setItem id item
      return item

/-- Makes the key and the value of a member known. A collection is no key, and then the value is not looked at. -/
def member (m : Nat × Nat) : Build (Scalar × Nat) := do
  match ← touch m.1 with
  | .scalar key =>
    let _ ← touch m.2
    return (key, m.2)
  | _ => fail

/-- Puts a part at a key: in the place of the one that is there, whose key stays, else at the end. -/
def put (members : List (Scalar × Nat)) (key : Scalar) (id : Nat) : List (Scalar × Nat) :=
  match members with
  | [] => [(key, id)]
  | (k, i) :: rest => if k.alike key then (k, id) :: rest else (k, i) :: put rest key id

/-- The members of a mapping after merging, each key once. -/
def members (id : Nat) : Build (List (Scalar × Nat)) := do
  let p ← get
  match p.graph[id]?.map Node.body with
  | some (.mapping _) =>
    let g ← p.graph.merge id
    modify fun p => { p with graph := g }
    match g[id]?.map Node.body with
    | some (.mapping pairs) =>
      let found ← pairs.mapM member
      return found.foldl (fun found (key, i) => put found key i) []
    | _ => fail
  | _ => fail

/-- An item of a sequence of pairs: a mapping with one member. -/
def pair (id : Nat) : Build (Nat × Nat) := do
  match (← get).graph[id]?.map Node.body with
  | some (.mapping [(key, value)]) =>
    let _ ← touch key
    let _ ← touch value
    return (key, value)
  | _ => fail

/-- Makes the parts of a collection known. -/
def fill (id : Nat) : Build Unit := do
  let p ← get
  let body := p.graph[id]?.map Node.body
  match p.items[id]?.join, body with
  | some (.list _), some (.sequence items) =>
    let _ ← items.mapM touch
    setItem id (.list items)
  | some (.pairs _), some (.sequence items) => setItem id (.pairs (← items.mapM pair))
  | some (.map _), _ => setItem id (.map (← members id))
  | some (.set _), _ => setItem id (.set ((← members id).map Prod.fst))
  | _, _ => fail

/-- Makes the parts of all collections known, level by level; there are no more levels than nodes. -/
def fillAll : Nat → Build Unit
  | 0 => return
  | fuel + 1 => do
    let level := (← get).waiting.reverse
    modify fun p => { p with waiting := [] }
    if level.isEmpty then return
    level.forM fill
    fillAll fuel

end Build

/-- The value of a node, from what is known of the nodes; `above` are the nodes around it. -/
def unfold (items : Array (Option Item)) (above : List Nat) : Nat → Nat → Value
  | 0, _ => .null
  | fuel + 1, id =>
    if id ∈ above then .ancestor
    else
      let part := unfold items (id :: above) fuel
      match items[id]?.join with
      | some (.scalar s) => .scalar s
      | some (.list parts) => .list (parts.map part)
      | some (.pairs parts) => .list (parts.map fun (key, value) => .pair (part key) (part value))
      | some (.map members) => .map (members.map fun (key, value) => (key, part value))
      | some (.set members) => .set members
      | none => .null

/-- The value that a text stands for; a text without a document stands for null. -/
def read (cs : List Char) : Except Failure Value := do
  match ← Graph.read cs with
  | none => return .null
  | some (g, root) =>
    let start : Progress := { graph := g, items := Array.replicate g.size none }
    let (_, done) ← (do
      let _ ← Build.touch root
      Build.fillAll (g.size + 1)).run start
    return unfold done.items [] (g.size + 1) root

end ShapeTables.Yaml
