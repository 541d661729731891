import ShapeTables.Flat.ColumnType

/-! Flat tables. A flat table has columns with values and references to columns of other tables; a resolved
table has, for each reference, the foreign key that it stands for. -/
namespace ShapeTables.Flat

open Shape (Constant)

structure Column where
  name : String
  type : ColumnType
  default : Option Constant
  enum : Option (List Constant)
  description : Option String
deriving DecidableEq, Repr

structure Reference where
  name : String
  pointer : String
  /-- The steps in the document to the properties that the reference is one of. -/
  schemaPath : List String
  oneToMany : Bool
deriving DecidableEq, Repr

structure Target where
  table : String
  column : String
deriving DecidableEq, Repr

structure ForeignKey where
  name : String
  type : ColumnType
  target : Target
  oneToMany : Bool
deriving DecidableEq, Repr

structure Table where
  name : String
  required : Option (List String)
  primaryKey : Option String
  columns : List Column
  references : List Reference
deriving DecidableEq, Repr

structure ResolvedTable extends Table where
  foreignKeys : List ForeignKey
deriving DecidableEq, Repr

namespace Table

def findColumn? (t : Table) (name : String) : Option Column := t.columns.find? fun c => c.name = name

def findReference? (t : Table) (name : String) : Option Reference :=
  t.references.find? fun r => r.name = name

def isRequired (t : Table) (name : String) : Bool := (t.required.getD []).contains name

end Table

end ShapeTables.Flat
