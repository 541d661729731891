import ShapeTables.Text.Blank
import ShapeTables.Text.Lowercase

/-! SQL dialects and their names. A name is taken without regard to case and to blanks around it; besides its
own name a dialect has others that it is known by. -/
namespace ShapeTables.Sql

inductive Dialect where
  | postgresql
  | mysql
deriving DecidableEq, Repr

namespace Dialect

def name : Dialect → String
  | .postgresql => "postgresql"
  | .mysql => "mysql"

def all : List Dialect := [.postgresql, .mysql]

/-- Every name of a dialect. -/
def byName : List (String × Dialect) :=
  [("postgresql", .postgresql), ("mysql", .mysql), ("pg", .postgresql), ("postgres", .postgresql),
   ("mariadb", .mysql)]

def ofName? (s : String) : Option Dialect := byName.lookup (Text.lower (Text.trim s))

/-- What is said of a name that no dialect has. -/
def unsupportedMessage (s : String) : String :=
  s!"Unsupported dialect '{s}'. Supported dialects: " ++ ", ".intercalate (all.map name)

end Dialect

end ShapeTables.Sql
