import ShapeTables.Fault
import ShapeTables.Flat.ColumnType
import ShapeTables.Shape.Pointer

/-! Problems of documents. A problem is a cause at a location; its kind says which stage found it. A report is
a problem put into words. -/
namespace ShapeTables

inductive Kind where
  | malformed
  | shape
  | invariant
  | duplicateTable
  | unknownTable
  | unknownColumn
  | invalidTargetType
deriving DecidableEq, Repr

namespace Kind

def name : Kind → String
  | .malformed => "syntax"
  | .shape => "shape"
  | .invariant => "invariant"
  | .duplicateTable => "duplicate_table"
  | .unknownTable => "unknown_table"
  | .unknownColumn => "unknown_column"
  | .invalidTargetType => "invalid_target_type"

def all : List Kind :=
  [.malformed, .shape, .invariant, .duplicateTable, .unknownTable, .unknownColumn, .invalidTargetType]

end Kind

/-- Why a column cannot be a key. -/
inductive KeyProblem where
  | reference
  | typed (name : String)
  | formatted (type format : String)
deriving DecidableEq, Repr

def KeyProblem.message : KeyProblem → String
  | .reference => "cannot be a \"$ref\""
  | .typed name => s!"cannot be of type {name}"
  | .formatted type format => s!"cannot be of type {type} format {format}"

inductive Problem.Cause where
  | malformed
  | form (cause : Fault.Cause)
  | pointerForm (problem : Shape.Pointer.Problem)
  | idKey (problem : KeyProblem)
  | namedKey (problem : KeyProblem)
  | unknownKey (name : String)
  /-- A table without a key has a nested table or array. -/
  | keyless (nested type : String)
  | missingField (name : String)
  | duplicateTable (name : String)
  | unknownTable (pointer table : String)
  | unknownColumn (pointer table column : String)
  | targetsReference (pointer table column : String)
  | targetsType (pointer table column : String) (type : Flat.ColumnType)
deriving DecidableEq, Repr

structure Problem where
  loc : Location
  cause : Problem.Cause
deriving DecidableEq, Repr

structure Report where
  loc : Location
  message : String
  kind : Kind
deriving DecidableEq, Repr

namespace Problem.Cause

def kind : Problem.Cause → Kind
  | .malformed => .malformed
  | .form _ => .shape
  | .pointerForm _ | .idKey _ | .namedKey _ | .unknownKey _ | .keyless .. | .missingField _ => .invariant
  | .duplicateTable _ => .duplicateTable
  | .unknownTable .. => .unknownTable
  | .unknownColumn .. => .unknownColumn
  | .targetsReference .. | .targetsType .. => .invalidTargetType

def message : Problem.Cause → String
  | .malformed => "Invalid JSON Schema syntax"
  | .form cause => cause.message
  | .pointerForm problem => problem.message
  | .idKey problem =>
    "\"id\" is considered a primary key when \"x-primaryKey\" is missing and " ++ problem.message
  | .namedKey problem => "Primary key " ++ problem.message
  | .unknownKey name => s!"Refers to unknown field \"{name}\""
  | .keyless nested type =>
    "Must have an \"id\" property or a custom primary key via \"x-primaryKey\" " ++
      s!"because it has nested \"{nested}\" of type {type}"
  | .missingField name => s!"Requires missing field \"{name}\""
  | .duplicateTable name =>
    s!"Table name \"{name}\" is produced more than once; " ++
      "rename the table or nested property that collides with it"
  | .unknownTable pointer table => s!"Reference \"{pointer}\" points at unknown table \"{table}\""
  | .unknownColumn pointer table column =>
    s!"Reference \"{pointer}\" points at unknown column \"{column}\" on table \"{table}\""
  | .targetsReference pointer table column =>
    s!"Reference \"{pointer}\" cannot target \"{table}.{column}\", which is itself a reference"
  | .targetsType pointer table column type =>
    s!"Reference \"{pointer}\" cannot target \"{table}.{column}\" of type {type.name}; " ++
      "foreign keys must point at uuid, string, boolean or integer columns"

end Problem.Cause

def Problem.report (p : Problem) : Report := ⟨p.loc, p.cause.message, p.cause.kind⟩

/-- The report on one line, its location first. -/
def Report.describe (r : Report) : String := s!"{Location.text r.loc}: {r.message}"

end ShapeTables
