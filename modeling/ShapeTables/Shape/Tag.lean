import ShapeTables.Location

/-! Kinds of columns and the tags that name them. A reader puts the tag of a column into the locations below
it, right after the name of the property or the word items; `untag` takes exactly those tags out again, so
that what is left is a location in the document. -/
namespace ShapeTables.Shape

inductive Tag where
  | literal
  | string
  | array
  | ref
  | object
deriving DecidableEq, Repr

namespace Tag

def name : Tag → String
  | .literal => "literal"
  | .string => "string"
  | .array => "array"
  | .ref => "ref"
  | .object => "object"

def all : List Tag := [.literal, .string, .array, .ref, .object]

end Tag

/-- Whether a step is spelled like a tag. -/
def isTag (step : Step) : Bool := Tag.all.any fun tag => step = .name tag.name

/-- What the next step of a tagged location can be. -/
inductive Expected where
  | anything
  /-- The name of a property. -/
  | property
  /-- The tag of the column that the location has come to. -/
  | tag
deriving DecidableEq, Repr

/-- The state after keeping a step, `kept` steps having been kept with it. The properties at the root are
tables and have no tag. -/
def Expected.next (state : Expected) (step : Step) (kept : Nat) : Expected :=
  match state with
  | .property => if 2 < kept then .tag else .anything
  | _ =>
    if step = .name "properties" then .property
    else if step = .name "items" then .tag
    else .anything

/-- The location without tags, `kept` steps having been kept before it. -/
def untagFrom (state : Expected) (kept : Nat) : Location → Location
  | [] => []
  | step :: rest =>
    if state = .tag ∧ isTag step then untagFrom .anything kept rest
    else step :: untagFrom (state.next step (kept + 1)) (kept + 1) rest

def untag (loc : Location) : Location := untagFrom .anything 0 loc

end ShapeTables.Shape
