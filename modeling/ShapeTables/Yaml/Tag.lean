/-! Tags. A tag says what a node stands for. The tags below are those that values can be made of; two more are
given to keys of mappings, and every other tag is unknown. -/
namespace ShapeTables.Yaml

inductive Tag where
  | null
  | bool
  | int
  | float
  | binary
  | timestamp
  | str
  | seq
  | map
  | set
  | omap
  | pairs
  /-- The key whose value brings members into its mapping. -/
  | merge
  /-- The key whose value stands for its mapping where a scalar is expected. -/
  | value
  | unknown (name : String)
deriving DecidableEq, Repr, Inhabited

namespace Tag

def lead : String := "tag:yaml.org,2002:"

def byName : List (String × Tag) :=
  [("null", .null), ("bool", .bool), ("int", .int), ("float", .float), ("binary", .binary),
   ("timestamp", .timestamp), ("str", .str), ("seq", .seq), ("map", .map), ("set", .set), ("omap", .omap),
   ("pairs", .pairs), ("merge", .merge), ("value", .value)]

def ofName (name : String) : Tag :=
  if lead.toList.isPrefixOf name.toList then
    (byName.lookup (String.ofList (name.toList.drop lead.length))).getD (.unknown name)
  else .unknown name

end Tag

end ShapeTables.Yaml
