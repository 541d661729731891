import ShapeTables.Value

/-! Locations in a document: the steps from its root, by member name or by list index. A location is shown
with its steps joined by slashes, the root as a number sign. -/
namespace ShapeTables

inductive Step where
  | name (s : String)
  | index (n : Int)
deriving DecidableEq, Inhabited, Repr

abbrev Location := List Step

def Step.text : Step → String
  | .name s => s
  | .index n => toString n

def Location.text (loc : Location) : String :=
  let shown := "/".intercalate (loc.map Step.text)
  if shown.isEmpty then "#" else shown

namespace Value

/-- The value one step below. -/
def step? : Value → Step → Option Value
  | .map members, .name s => member? members s
  | .list items, .index (.ofNat n) => items[n]?
  | _, _ => none

/-- The value that a location leads to. -/
def follow? (v : Value) : Location → Option Value
  | [] => some v
  | step :: rest => (v.step? step).bind (follow? · rest)

end Value

end ShapeTables
