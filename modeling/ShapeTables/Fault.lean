import ShapeTables.Location

/-! Faults of form. A reader that expects a value of some form answers with every fault it finds, each at its
location and with its cause; the code and the wording of a cause are fixed here. -/
namespace ShapeTables

inductive Fault.Cause where
  | missing
  | notText
  /-- Octets were expected to be a text in UTF-8. -/
  | notUtf8
  | notBool
  | notInt
  | notNumber
  | notList
  | notMap
  /-- A map was expected that holds the fields of the named model. -/
  | notModel (model : String)
  | notAmong (choices : List String)
  | notMember (choices : List String)
  | unreadableBool
  | unreadableInt
  | longInt
  | fractionalInt
  | infiniteInt
  | below (least : Int)
  | above (most : Int)
  | mismatch (pattern : String)
  | unknownColumn
  | unknownItems
  /-- The value has the right form but breaks a rule stated on it as a whole. -/
  | brokenRule (message : String)
deriving DecidableEq, Repr

structure Fault where
  loc : Location
  cause : Fault.Cause
deriving DecidableEq, Repr

namespace Fault.Cause

def code : Fault.Cause → String
  | .missing => "missing"
  | .notText => "string_type"
  | .notUtf8 => "string_unicode"
  | .notBool => "bool_type"
  | .notInt => "int_type"
  | .notNumber => "float_type"
  | .notList => "list_type"
  | .notMap => "dict_type"
  | .notModel _ => "model_type"
  | .notAmong _ => "literal_error"
  | .notMember _ => "enum"
  | .unreadableBool => "bool_parsing"
  | .unreadableInt => "int_parsing"
  | .longInt => "int_parsing_size"
  | .fractionalInt => "int_from_float"
  | .infiniteInt => "finite_number"
  | .below _ => "greater_than_equal"
  | .above _ => "less_than_equal"
  | .mismatch _ => "string_pattern_mismatch"
  | .unknownColumn => "invalid_column"
  | .unknownItems => "invalid_array_items"
  | .brokenRule _ => "value_error"

/-- The choices in quotes, the last one joined by "or". -/
def choiceText (choices : List String) : String :=
  let quoted := choices.map fun c => s!"'{c}'"
  match quoted.reverse with
  | [] => ""
  | [only] => only
  | last :: before => ", ".intercalate before.reverse ++ " or " ++ last

def message : Fault.Cause → String
  | .missing => "Field required"
  | .notText => "Input should be a valid string"
  | .notUtf8 => "Input should be a valid string, unable to parse raw data as a unicode string"
  | .notBool => "Input should be a valid boolean"
  | .notInt => "Input should be a valid integer"
  | .notNumber => "Input should be a valid number"
  | .notList => "Input should be a valid list"
  | .notMap => "Input should be a valid dictionary"
  | .notModel model => s!"Input should be a valid dictionary or instance of {model}"
  | .notAmong choices => s!"Input should be {choiceText choices}"
  | .notMember choices => s!"Input should be {choiceText choices}"
  | .unreadableBool => "Input should be a valid boolean, unable to interpret input"
  | .unreadableInt => "Input should be a valid integer, unable to parse string as an integer"
  | .longInt => "Unable to parse input string as an integer, exceeded maximum size"
  | .fractionalInt => "Input should be a valid integer, got a number with a fractional part"
  | .infiniteInt => "Input should be a finite number"
  | .below least => s!"Input should be greater than or equal to {least}"
  | .above most => s!"Input should be less than or equal to {most}"
  | .mismatch pattern => s!"String should match pattern '{pattern}'"
  | .unknownColumn =>
    "Column must declare a \"$ref\" or a \"type\" of \"object\", \"array\", \"string\", \"boolean\", " ++
      "\"number\" or \"integer\""
  | .unknownItems =>
    "Array items must be an \"object\", \"string\", \"boolean\", \"number\" or \"integer\" column, or a \"$ref\""
  | .brokenRule message => s!"Value error, {message}"

end Fault.Cause

end ShapeTables
