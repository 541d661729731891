import ShapeTables.Decimal.Shortest
import ShapeTables.MetaSchema.Draft
import ShapeTables.Pattern.Check
import ShapeTables.Value.Writable

/-! Forms of keyword values. A form says which scalars, which lists and which maps may be the value of a
keyword; `Draft.keywords` gives the forms of the keywords of each draft in the order in which they are looked
at. What is found first counts, so the order tells a schema that does not fit from one that has no answer. -/
namespace ShapeTables.MetaSchema

inductive Form where
  | any
  | text
  | pattern
  /-- The address of a schema, with nothing after a number sign. -/
  | address
  | anchor (first other : List Char)
  | flag
  | number
  | positive
  | integer
  | count
  | typeName
  | typeNames
  | typeNamesOrSchemas
  | typeNameOrSchema
  | schema
  | schemaOrFlag
  | schemas
  | schemaOrSchemas (nonempty : Bool)
  | schemaMap (patternNames : Bool)
  | values (nonempty distinct : Bool)
  | texts (nonempty distinct : Bool)
  | textsMap
  /-- What a property depends on: texts or a schema, in draft 3 also one text. -/
  | dependency
  | dependencies
  | flagMap
deriving DecidableEq, Repr

/-- What the names of a map have to be. -/
inductive NameForm where
  | any
  | text
  | pattern
deriving DecidableEq, Repr

/-- How a value is looked at that may be one of several things. -/
structure Trial where
  /-- Whether it is found first not to be another of them, and written out as that. -/
  late : Bool := false
  /-- Whether it is looked at to its end, and is a misfit as a whole. -/
  whole : Bool := false
deriving DecidableEq, Repr

structure ListForm where
  item : Form
  nonempty : Bool
  distinct : Bool
  trial : Trial := {}

inductive MapForm where
  /-- Each member has the form of its keyword. -/
  | keywords (trial : Trial)
  | members (form : Form) (names : NameForm)

def simpleTypes : List String :=
  ["array", "boolean", "integer", "null", "number", "object", "string"]

/-- Whether nothing follows the first number sign of a text but a line feed at the end. -/
def isAddress (s : String) : Bool :=
  match s.toList.dropWhile (· != '#') with
  | [] | ['#'] | ['#', '\n'] => true
  | _ => false

/-- Whether a text is an anchor, a line feed at its end being let through. -/
def isAnchor (first other : List Char) (s : String) : Bool :=
  match (if s.toList.getLast? = some '\n' then s.toList.dropLast else s.toList) with
  | [] => false
  | c :: rest => (c.isAlpha || first.contains c) && rest.all fun c => c.isAlphanum || other.contains c

/-- What is found wrong with a value: it does not have its form, or that is a question without an answer,
because a pattern in it makes it one, or because the value cannot be written out, as each misfit is. -/
inductive Finding where
  | misfit
  | unwritable
  | unanswerable (fault : Pattern.Fault)
deriving DecidableEq, Repr

def misfitUnless (p : Bool) : List Finding := if p then [] else [.misfit]

/-- What is found where a value is a misfit as a whole. -/
def misfitOf (v : Value) : List Finding := if v.isWritable then [.misfit] else [.unwritable]

/-- What is found in a value, given what would be in one that can be written out. -/
def writtenOut (v : Value) (found : List Finding) : List Finding :=
  found.flatMap fun f => if f = .misfit then misfitOf v else [f]

def Finding.isMisfit (f : Finding) : Bool := f == .misfit

/-- What is wrong with a pattern. -/
def patternFindings (s : String) : List Finding :=
  match Pattern.check s with
  | .ok () => []
  | .error .malformed => [.misfit]
  | .error fault => [.unanswerable fault]

/-- What is found in a value that may be one of several things, given what is found in it as one of them: the
first question without an answer outweighs all else. -/
def Trial.settle (trial : Trial) (v : Value) (found : List Finding) : List Finding :=
  if trial.late && !v.isWritable then [.unwritable]
  else if trial.whole then match found.find? fun f => !f.isMisfit with
    | some f => [f]
    | none => if found.isEmpty then [] else misfitOf v
  else found

def isNumber : Scalar → Bool
  | .int _ | .float _ | .nan _ => true
  | _ => false

/-- Whether a scalar is an integer, and the integer. -/
def integer? (d : Draft) : Scalar → Option Int
  | .int n => some n
  | .float x => if d.allowsIntegralFloats then Decimal.toInt? x else none
  | _ => none

def isText : Scalar → Bool
  | .text _ => true
  | _ => false

def isFlag : Scalar → Bool
  | .bool _ => true
  | _ => false

namespace Form

/-- What is wrong with a scalar. -/
def scalar (d : Draft) (form : Form) (s : Scalar) : List Finding :=
  match form with
  | .any => []
  | .pattern => match s with
    | .text p => patternFindings p
    | _ => [.misfit]
  | .text | .typeNamesOrSchemas | .typeNameOrSchema => misfitUnless (isText s)
  | .address => match s with
    | .text s => misfitUnless (isAddress s)
    | _ => [.misfit]
  | .anchor first other => match s with
    | .text s => misfitUnless (isAnchor first other s)
    | _ => [.misfit]
  | .flag | .schemaOrFlag => misfitUnless (isFlag s)
  | .number => misfitUnless (isNumber s)
  | .positive => match s with
    | .int n => misfitUnless (0 < n)
    | .float x => misfitUnless (0.0 < x)
    | .nan _ => []
    | _ => [.misfit]
  | .integer => misfitUnless (integer? d s).isSome
  | .count => match integer? d s with
    | some n => misfitUnless (0 ≤ n)
    | none => [.misfit]
  | .typeName | .typeNames => match s with
    | .text s => misfitUnless (simpleTypes.contains s)
    | _ => [.misfit]
  | .schema | .schemaOrSchemas _ => misfitUnless (d.allowsFlags && isFlag s)
  | .dependency => misfitUnless ((d.allowsFlags && isFlag s) || (d == .draft3 && isText s))
  | _ => [.misfit]

def list? (d : Draft) : Form → Option ListForm
  | .typeNames => some { item := .typeName, nonempty := true, distinct := true, trial := ⟨true, true⟩ }
  | .typeNamesOrSchemas => some { item := .typeNameOrSchema, nonempty := false, distinct := true }
  | .schemas => some { item := .schema, nonempty := true, distinct := false }
  | .schemaOrSchemas nonempty =>
    some { item := .schema, nonempty, distinct := false, trial := ⟨true, d != .draft3⟩ }
  | .values nonempty distinct => some { item := .any, nonempty, distinct }
  | .texts nonempty distinct => some { item := .text, nonempty, distinct }
  | .dependency =>
    if d = .draft3 then some { item := .text, nonempty := false, distinct := false }
    else some { item := .text, nonempty := d == .draft4, distinct := true, trial := ⟨true, true⟩ }
  | _ => none

def map? (d : Draft) : Form → Option MapForm
  | .schema => some (.keywords {})
  | .schemaOrFlag => some (.keywords ⟨d == .draft4, true⟩)
  | .typeNameOrSchema | .schemaOrSchemas _ | .dependency => some (.keywords ⟨false, true⟩)
  | .schemaMap patternNames => some (.members .schema (if patternNames then .pattern else .any))
  | .textsMap => some (.members (.texts false true) .any)
  | .dependencies => some (.members .dependency .any)
  | .flagMap => some (.members .flag .text)
  | _ => none

end Form

/-- What is wrong with the name of a member. -/
def NameForm.findings (form : NameForm) (key : Scalar) : List Finding :=
  match form, key with
  | .any, _ => []
  | .text, key => writtenOut (.scalar key) (misfitUnless (isText key))
  | .pattern, .text s => patternFindings s
  | .pattern, _ => []

/-! ### Keywords of the drafts -/

def draft3Keywords : List (String × Form) :=
  [("type", .typeNamesOrSchemas), ("properties", .schemaMap false), ("patternProperties", .schemaMap false),
   ("additionalProperties", .schemaOrFlag), ("items", .schemaOrSchemas false),
   ("additionalItems", .schemaOrFlag), ("required", .flag), ("dependencies", .dependencies),
   ("minimum", .number), ("maximum", .number), ("exclusiveMinimum", .flag), ("exclusiveMaximum", .flag),
   ("minItems", .count), ("maxItems", .count), ("uniqueItems", .flag), ("pattern", .pattern),
   ("minLength", .count), ("maxLength", .integer), ("enum", .values true true), ("title", .text),
   ("description", .text), ("format", .text), ("divisibleBy", .positive), ("disallow", .typeNamesOrSchemas),
   ("extends", .schemaOrSchemas false), ("id", .text), ("$ref", .text), ("$schema", .text)]

def combinations : List (String × Form) :=
  [("allOf", .schemas), ("anyOf", .schemas), ("oneOf", .schemas), ("not", .schema)]

def draft4Keywords : List (String × Form) :=
  [("id", .text), ("$schema", .text), ("title", .text), ("description", .text),
   ("multipleOf", .positive), ("maximum", .number), ("exclusiveMaximum", .flag), ("minimum", .number),
   ("exclusiveMinimum", .flag), ("maxLength", .count), ("minLength", .count), ("pattern", .pattern),
   ("additionalItems", .schemaOrFlag), ("items", .schemaOrSchemas true), ("maxItems", .count),
   ("minItems", .count), ("uniqueItems", .flag), ("maxProperties", .count), ("minProperties", .count),
   ("required", .texts true true), ("additionalProperties", .schemaOrFlag), ("definitions", .schemaMap false),
   ("properties", .schemaMap false), ("patternProperties", .schemaMap false), ("dependencies", .dependencies),
   ("enum", .values true true), ("type", .typeNames), ("format", .text)] ++ combinations

/-- The keywords from the bound of a number to the pattern of a text, as they stand in drafts 6 and later. -/
def measureKeywords : List (String × Form) :=
  [("multipleOf", .positive), ("maximum", .number), ("exclusiveMaximum", .number), ("minimum", .number),
   ("exclusiveMinimum", .number), ("maxLength", .count), ("minLength", .count), ("pattern", .pattern)]

/-- The keywords for the members of lists and maps in drafts 6 and 7. -/
def structureKeywords : List (String × Form) :=
  [("additionalItems", .schema), ("items", .schemaOrSchemas true), ("maxItems", .count), ("minItems", .count),
   ("uniqueItems", .flag), ("contains", .schema), ("maxProperties", .count), ("minProperties", .count),
   ("required", .texts false true), ("additionalProperties", .schema), ("definitions", .schemaMap false),
   ("properties", .schemaMap false), ("patternProperties", .schemaMap true), ("dependencies", .dependencies),
   ("propertyNames", .schema), ("enum", .values false false), ("type", .typeNames), ("format", .text)]

def conditions : List (String × Form) := [("if", .schema), ("then", .schema), ("else", .schema)]

def draft6Keywords : List (String × Form) :=
  [("$id", .text), ("$schema", .text), ("$ref", .text), ("title", .text), ("description", .text),
   ("examples", .values false false)] ++ measureKeywords ++ structureKeywords ++ combinations

def draft7Keywords : List (String × Form) :=
  [("$id", .text), ("$schema", .text), ("$ref", .text), ("$comment", .text), ("title", .text),
   ("description", .text), ("readOnly", .flag), ("examples", .values false false)] ++
    measureKeywords ++ structureKeywords ++ [("contentMediaType", .text), ("contentEncoding", .text)] ++
    conditions ++ combinations

/-- The vocabulary of validation without its last keywords. -/
def validationKeywords : List (String × Form) :=
  measureKeywords ++
    [("maxItems", .count), ("minItems", .count), ("uniqueItems", .flag), ("maxContains", .count),
     ("minContains", .count), ("maxProperties", .count), ("minProperties", .count),
     ("required", .texts false true), ("dependentRequired", .textsMap)]

/-- The vocabularies of notes, formats and contents. -/
def annotationKeywords : List (String × Form) :=
  [("title", .text), ("description", .text), ("deprecated", .flag), ("readOnly", .flag), ("writeOnly", .flag),
   ("examples", .values false false), ("format", .text), ("contentMediaType", .text),
   ("contentEncoding", .text), ("contentSchema", .schema)]

def draft201909Keywords : List (String × Form) :=
  [("$id", .address), ("$schema", .text), ("$anchor", .anchor [] ['-', '.', ':', '_']), ("$ref", .text),
   ("$recursiveRef", .text), ("$recursiveAnchor", .flag), ("$vocabulary", .flagMap), ("$comment", .text),
   ("$defs", .schemaMap false), ("additionalItems", .schema), ("unevaluatedItems", .schema),
   ("items", .schemaOrSchemas true), ("contains", .schema), ("additionalProperties", .schema),
   ("unevaluatedProperties", .schema), ("properties", .schemaMap false), ("patternProperties", .schemaMap true),
   ("dependentSchemas", .schemaMap false), ("propertyNames", .schema)] ++ conditions ++ combinations ++
    validationKeywords ++ [("enum", .values false false), ("type", .typeNames)] ++ annotationKeywords ++
    [("definitions", .schemaMap false), ("dependencies", .dependencies)]

def draft202012Keywords : List (String × Form) :=
  let anchor : Form := .anchor ['_'] ['-', '.', '_']
  [("$id", .address), ("$schema", .text), ("$ref", .text), ("$anchor", anchor), ("$dynamicRef", .text),
   ("$dynamicAnchor", anchor), ("$vocabulary", .flagMap), ("$comment", .text), ("$defs", .schemaMap false),
   ("prefixItems", .schemas), ("items", .schema), ("contains", .schema), ("additionalProperties", .schema),
   ("properties", .schemaMap false), ("patternProperties", .schemaMap true),
   ("dependentSchemas", .schemaMap false), ("propertyNames", .schema)] ++ conditions ++ combinations ++
    [("unevaluatedItems", .schema), ("unevaluatedProperties", .schema), ("type", .typeNames),
     ("enum", .values false false)] ++ validationKeywords ++ annotationKeywords ++
    [("definitions", .schemaMap false), ("dependencies", .dependencies), ("$recursiveAnchor", anchor),
     ("$recursiveRef", .text)]

namespace Draft

def keywords : Draft → List (String × Form)
  | .draft3 => draft3Keywords
  | .draft4 => draft4Keywords
  | .draft6 => draft6Keywords
  | .draft7 => draft7Keywords
  | .draft201909 => draft201909Keywords
  | .draft202012 => draft202012Keywords

/-- The form of a member of a schema; what is no keyword may be anything. -/
def form (d : Draft) : Scalar → Form
  | .text name => (d.keywords.lookup name).getD .any
  | _ => .any

/-- Keywords that need another keyword beside them. -/
def needs : Draft → List (String × String)
  | .draft3 | .draft4 => [("exclusiveMinimum", "minimum"), ("exclusiveMaximum", "maximum")]
  | _ => []

end Draft

end ShapeTables.MetaSchema
