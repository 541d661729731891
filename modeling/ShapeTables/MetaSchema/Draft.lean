import ShapeTables.MetaSchema.Address

/-! Drafts of JSON Schema and the addresses that name them. An address is compared by the characters that count,
with its scheme in small letters, and without an empty authority, query or fragment. -/
namespace ShapeTables.MetaSchema

inductive Draft where
  | draft3
  | draft4
  | draft6
  | draft7
  | draft201909
  | draft202012
deriving DecidableEq, Repr

namespace Draft

/-- The drafts by their addresses. -/
def byAddress : List (String × Draft) :=
  [("http://json-schema.org/draft-03/schema", .draft3), ("http://json-schema.org/draft-04/schema", .draft4),
   ("http://json-schema.org/draft-06/schema", .draft6), ("http://json-schema.org/draft-07/schema", .draft7),
   ("https://json-schema.org/draft/2019-09/schema", .draft201909),
   ("https://json-schema.org/draft/2020-12/schema", .draft202012)]

/-- The draft of a document that names none that is known. -/
def latest : Draft := .draft202012

/-- Whether a truth value is a schema. -/
def allowsFlags : Draft → Bool
  | .draft3 | .draft4 => false
  | _ => true

/-- Whether a double that is an integer counts as one. -/
def allowsIntegralFloats : Draft → Bool
  | .draft3 | .draft4 => false
  | _ => true

/-- The characters without `c` at their end. -/
def withoutFinal (c : Char) (cs : List Char) : List Char := if cs.getLast? = some c then cs.dropLast else cs

/-- What follows a scheme, without an empty authority in front of two more slashes. -/
def withoutEmptyAuthority : List Char → List Char
  | '/' :: '/' :: '/' :: '/' :: rest => '/' :: '/' :: rest
  | cs => cs

/-- An address with its scheme, if it has one, in small letters. -/
def lowerScheme (cs : List Char) : List Char :=
  match Address.splitScheme cs with
  | (some scheme, rest) => scheme.map Char.toLower ++ ':' :: withoutEmptyAuthority rest
  | (none, rest) => rest

/-- The draft that an address names, if it is known. -/
def ofAddress? (address : String) : Option Draft :=
  byAddress.lookup (String.ofList (withoutFinal '?' (withoutFinal '#' (lowerScheme (Address.clean address)))))

end Draft

end ShapeTables.MetaSchema
