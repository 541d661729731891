/-! Shapes. A shape describes a database as nested tables: a table has named columns, and a column holds a
value, points at another column, or is itself a table or an array. The items of an array are anything but an
array again. -/
namespace ShapeTables.Shape

/-- A constant that a column has as its default or among its allowed values. -/
inductive Constant where
  | bool (b : Bool)
  | int (n : Int)
  | float (x : Float)
  | text (s : String)
deriving DecidableEq, Repr, Inhabited

inductive Format where
  | uuid
  | date
  | datetime
deriving DecidableEq, Repr

def Format.name : Format → String
  | .uuid => "uuid"
  | .date => "date"
  | .datetime => "datetime"

inductive ValueType where
  | boolean
  | number
  | integer
  | string (format : Option Format)
deriving DecidableEq, Repr

def ValueType.name : ValueType → String
  | .boolean => "boolean"
  | .number => "number"
  | .integer => "integer"
  | .string _ => "string"

structure ValueColumn where
  type : ValueType
  default : Option Constant
  enum : Option (List Constant)
  description : Option String
deriving DecidableEq, Repr

/-- A table over the columns `α`. -/
structure TableOf (α : Type) where
  properties : List (String × α)
  required : Option (List String)
  primaryKey : Option String

/-- The items of an array over the columns `α`. -/
inductive ItemsOf (α : Type) where
  | ref (pointer : String)
  | value (column : ValueColumn)
  | table (table : TableOf α)

inductive Column where
  | ref (pointer : String)
  | value (column : ValueColumn)
  | array (items : ItemsOf Column)
  | table (table : TableOf Column)

abbrev Table := TableOf Column

abbrev Items := ItemsOf Column

structure Database where
  tables : List (String × Table)

namespace TableOf

/-- The key that the table names itself; an empty name names none. -/
def explicitKey? (t : TableOf α) : Option String :=
  match t.primaryKey with
  | some "" | none => none
  | some key => some key

def find? (t : TableOf α) (name : String) : Option α := t.properties.lookup name

/-- The key that the table names itself, else a column named id. -/
def effectiveKey? (t : TableOf α) : Option String :=
  match t.explicitKey? with
  | some key => some key
  | none => if (t.find? "id").isSome then some "id" else none

/-- The key that the tables nested in this one point at. -/
def joinKey (t : TableOf α) : String := t.explicitKey?.getD "id"

end TableOf

end ShapeTables.Shape
