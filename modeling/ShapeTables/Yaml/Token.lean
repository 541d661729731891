/-! Tokens of YAML. Indentation has become tokens that open and close blocks, and every key of a mapping has a
token in front of it. -/
namespace ShapeTables.Yaml

inductive Directive where
  | version (major minor : Nat)
  | tag (handle lead : String)
  | other
deriving DecidableEq, Repr

inductive Token where
  | streamEnd
  | directive (d : Directive)
  | documentStart
  | documentEnd
  | blockSequenceStart
  | blockMappingStart
  | blockEnd
  | flowSequenceStart
  | flowSequenceEnd
  | flowMappingStart
  | flowMappingEnd
  | blockEntry
  | flowEntry
  | key
  | value
  | alias (name : String)
  | anchor (name : String)
  /-- A tag by its handle, if it is not written in full, and the rest of it. -/
  | tag (handle : Option String) (suffix : String)
  /-- A scalar; one that is plain has neither quotes nor an indicator. -/
  | scalar (text : String) (plain : Bool)
deriving DecidableEq, Repr

end ShapeTables.Yaml
