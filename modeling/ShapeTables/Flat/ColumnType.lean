import ShapeTables.Shape.Basic

/-! Types of the columns of flat tables. A string column with a format has the type of its format. -/
namespace ShapeTables.Flat

inductive ColumnType where
  | uuid
  | string
  | date
  | datetime
  | boolean
  | number
  | integer
deriving DecidableEq, Repr

namespace ColumnType

def name : ColumnType → String
  | .uuid => "uuid"
  | .string => "string"
  | .date => "date"
  | .datetime => "datetime"
  | .boolean => "boolean"
  | .number => "number"
  | .integer => "integer"

def all : List ColumnType := [.uuid, .string, .date, .datetime, .boolean, .number, .integer]

/-- The types by their names. -/
def byName : List (String × ColumnType) := all.map fun t => (t.name, t)

/-- Whether a foreign key may point at a column of the type. -/
def isKeyType : ColumnType → Bool
  | .uuid | .string | .boolean | .integer => true
  | .date | .datetime | .number => false

def ofFormat : Shape.Format → ColumnType
  | .uuid => .uuid
  | .date => .date
  | .datetime => .datetime

def ofValueType : Shape.ValueType → ColumnType
  | .boolean => .boolean
  | .number => .number
  | .integer => .integer
  | .string none => .string
  | .string (some format) => ofFormat format

end ColumnType

end ShapeTables.Flat
