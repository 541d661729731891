import ShapeTables.Yaml.Node

/-! Merging. A merge key of a mapping is taken out, and the members of the mapping at it, or of the mappings in
the sequence at it, the last one first, come in front of the mapping's own. What is merged is merged itself
before, so a mapping that merges itself brings in what it has without that key. A value key becomes an ordinary
text on the way. -/
namespace ShapeTables.Yaml

abbrev Merging := StateT Graph (Except Failure)

namespace Merging

def fail : Merging α := throw .malformed

def nodeAt (id : Nat) : Merging Node := return (← get)[id]?.getD default

/-- The members of a mapping. -/
def membersAt (id : Nat) : Merging (List (Nat × Nat)) := do
  match (← nodeAt id).body with
  | .mapping members => return members
  | _ => fail

def setMembers (id : Nat) (members : List (Nat × Nat)) : Merging Unit :=
  modify fun g => g.setIfInBounds id { g[id]?.getD default with body := .mapping members }

def setTag (id : Nat) (tag : Tag) : Merging Unit :=
  modify fun g => g.setIfInBounds id { g[id]?.getD default with tag }

/-- The members of mappings, each merged before, those of the last one first. -/
def mergeItems (merge : Nat → Merging Unit) : List Nat → Merging (List (Nat × Nat))
  | [] => return []
  | id :: rest => do
    let _ ← membersAt id
    merge id
    let members ← membersAt id
    return (← mergeItems merge rest) ++ members

/-- What the value of a merge key brings in. -/
def broughtBy (merge : Nat → Merging Unit) (id : Nat) : Merging (List (Nat × Nat)) := do
  match (← nodeAt id).body with
  | .mapping _ =>
    merge id
    membersAt id
  | .sequence items => mergeItems merge items
  | .scalar _ => fail

/-- Takes the merge keys out of the members that follow `kept`, `brought` being what they have brought in so far.
Members that have changed meanwhile were merged on the way, and have no merge keys left. -/
def mergeFrom (merge : Nat → Merging Unit) (id : Nat) (kept brought : List (Nat × Nat)) :
    List (Nat × Nat) → Merging Unit
  | [] => finish
  | (key, value) :: rest => do
    match (← nodeAt key).tag with
    | .merge =>
      setMembers id (kept ++ rest)
      let brought := brought ++ (← broughtBy merge value)
      if (← membersAt id) = kept ++ rest then mergeFrom merge id kept brought rest
      else
        setMembers id (brought ++ (← membersAt id))
    | .value =>
      setTag key .str
      mergeFrom merge id (kept ++ [(key, value)]) brought rest
    | _ => mergeFrom merge id (kept ++ [(key, value)]) brought rest
where
  finish : Merging Unit := do setMembers id (brought ++ (← membersAt id))

/-- Takes the merge keys out of a mapping. One of them is gone before what it brings in is merged, so there are
no more levels than members. -/
def merge : Nat → Nat → Merging Unit
  | 0, _ => fail
  | fuel + 1, id => do mergeFrom (merge fuel) id [] [] (← membersAt id)

/-- The number of members of all mappings. -/
def memberCount (g : Graph) : Nat :=
  g.foldl (fun n node => match node.body with
    | .mapping members => n + members.length
    | _ => n) 0

end Merging

/-- The graph after a mapping of it is merged. -/
def Graph.merge (g : Graph) (id : Nat) : Except Failure Graph :=
  (·.2) <$> (Merging.merge (Merging.memberCount g + 1) id).run g

end ShapeTables.Yaml
