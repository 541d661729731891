import ShapeTables.Sql.Statement
import ShapeTables.Text.Integer
import ShapeTables.Text.Quoted
import ShapeTables.Text.Segments

/-! Scripts that create resolved tables. First every table is created with its own columns; only then are the
foreign keys added, so that tables may refer to each other in any order. A foreign key looks its target up by
one text, table and column joined by a dot, of which everything up to the last dot names the table. A script
fails at the first definition that cannot stand. -/
namespace ShapeTables.Sql

open Flat (Column ColumnType ForeignKey ResolvedTable Target)
open Shape (Constant)

inductive ScriptError where
  | tableDefined (table : String)
  | blankColumn
  | duplicateColumn (table column : String)
  | missingKeyColumn (table column : String)
  | unknownTable (table column : String) (sought : Target)
  | unknownColumn (table label : String) (sought : Target)
  /-- A constant is an integer with more digits than are written. -/
  | longInteger
deriving DecidableEq, Repr

def ScriptError.message : ScriptError → String
  | .tableDefined table =>
    s!"Table '{table}' is already defined for this MetaData instance.  Specify 'extend_existing=True' to " ++
      "redefine options and columns on an existing Table object."
  | .blankColumn =>
    "Column must be constructed with a non-blank name or assign a non-blank .name before adding to a Table."
  | .duplicateColumn table column => s!"A column with name '{column}' is already present in table '{table}'."
  | .missingKeyColumn table column =>
    s!"Can't create PrimaryKeyConstraint on table '{table}': no column named '{column}' is present."
  | .unknownTable table column sought =>
    s!"Foreign key associated with column '{table}.{column}' could not find table '{sought.table}' with " ++
      s!"which to generate a foreign key to target column '{sought.column}'"
  | .unknownColumn table label sought =>
    s!"Could not initialize target column for ForeignKey {Text.quoted label} on table '{table}': table " ++
      s!"'{sought.table}' has no column named '{sought.column}'"
  | .longInteger => Text.longIntegerMessage

/-- The names of the columns of a table must not be blank and must differ; `seen` are the names so far. -/
def checkNames (table : String) (seen : List String) : List String → Except ScriptError Unit
  | [] => .ok ()
  | name :: rest =>
    if name.isEmpty then .error .blankColumn
    else if name ∈ seen then .error (.duplicateColumn table name)
    else checkNames table (name :: seen) rest

/-! ### Tables -/

/-- The key of a table: the one it names, else a column named id. -/
def keyOf? (t : ResolvedTable) : Option String :=
  match t.primaryKey with
  | some "" | none => if (t.findColumn? "id").isSome then some "id" else none
  | some key => some key

def columnSpec (t : ResolvedTable) (c : Column) : ColumnSpec where
  name := c.name
  type := c.type
  notNull := t.isRequired c.name || keyOf? t == some c.name
  default := c.default
  comment := c.description

def checkOf? (c : Column) : Option Check :=
  match c.enum with
  | some (value :: rest) => some ⟨c.name, value :: rest⟩
  | _ => none

def tableSpec (t : ResolvedTable) : TableSpec where
  name := t.name
  columns := t.columns.map (columnSpec t)
  primaryKey := keyOf? t
  checks := t.columns.filterMap checkOf?

def isWritable : Constant → Bool
  | .int n => Text.isWritable n
  | _ => true

/-- The defaults of columns have to be written before the table that they are in is looked at. -/
def checkDefaults (t : ResolvedTable) : Except ScriptError Unit :=
  if t.columns.all fun c => c.default.all isWritable then .ok () else .error .longInteger

/-- The values that columns allow are written after that. -/
def checkAllowed (t : ResolvedTable) : Except ScriptError Unit :=
  if t.columns.all fun c => (c.enum.getD []).all isWritable then .ok () else .error .longInteger

/-- The definition of a table, if its columns can stand and its key is one of them. -/
def define (t : ResolvedTable) : Except ScriptError TableSpec := do
  checkNames t.name [] (t.columns.map (·.name))
  match keyOf? t with
  | some key => if (t.findColumn? key).isNone then throw (.missingKeyColumn t.name key)
  | none => pure ()
  return tableSpec t

/-- The statements for one table. PostgreSQL has descriptions in statements of their own, MySQL in the
definitions of the columns. -/
def createStatements (d : Dialect) (spec : TableSpec) : List Statement :=
  .createTable spec :: match d with
    | .mysql => []
    | .postgresql => spec.columns.filterMap fun c => match c.comment with
      | none | some "" => none
      | some text => some (.commentOn spec.name c.name text)

/-- Whether a table brings anything to define. One that does not stands for an earlier table of its name. -/
def hasItems (t : ResolvedTable) : Bool := !t.columns.isEmpty || (keyOf? t).isSome

/-- The statements that create tables, `defined` being the tables created so far. -/
def createAll (d : Dialect) (defined : List TableSpec) : List ResolvedTable → Except ScriptError (List Statement)
  | [] => .ok []
  | t :: rest => do
    checkDefaults t
    match defined.find? fun spec => spec.name = t.name with
    | some spec =>
      if hasItems t then .error (.tableDefined t.name)
      else return createStatements d spec ++ (← createAll d defined rest)
    | none =>
      let spec ← define t
      checkAllowed t
      return createStatements d spec ++ (← createAll d (defined ++ [spec]) rest)

/-! ### Foreign keys -/

/-- A table as foreign keys see it: with the names of all its columns, those of its foreign keys too. -/
structure Referable where
  name : String
  columns : List String
deriving DecidableEq, Repr

def referable (t : ResolvedTable) : Referable :=
  ⟨t.name, t.columns.map (·.name) ++ t.foreignKeys.map (·.name)⟩

/-- The tables that foreign keys can refer to, `found` being those before. -/
def referables (found : List Referable) : List ResolvedTable → Except ScriptError (List Referable)
  | [] => .ok found
  | t :: rest => match found.find? fun r => r.name = t.name with
    | some _ =>
      if (referable t).columns.isEmpty then referables found rest else .error (.tableDefined t.name)
    | none => do
      checkNames t.name [] (referable t).columns
      referables (found ++ [referable t]) rest

/-- The text that a target is looked up by. -/
def label (target : Target) : String := target.table ++ "." ++ target.column

/-- The target that a label is taken for. -/
def labelled (label : String) : Target :=
  let parts := Text.splitOn '.' label
  ⟨Text.joinWith '.' parts.dropLast, parts.getLast?.getD ""⟩

def foreignKeySpec (t : ResolvedTable) (k : ForeignKey) : ColumnSpec :=
  ⟨k.name, k.type, t.isRequired k.name, none, none⟩

/-- The statements for one foreign key; one that is not one-to-many is unique. -/
def foreignKeyStatements (tables : List Referable) (t : ResolvedTable) (k : ForeignKey) :
    Except ScriptError (List Statement) :=
  let sought := labelled (label k.target)
  match tables.find? fun r => r.name = sought.table with
  | none => .error (.unknownTable t.name k.name sought)
  | some r =>
    if sought.column ∈ r.columns then
      .ok ([.addColumn t.name (foreignKeySpec t k), .addForeignKey t.name k.name sought] ++
        if k.oneToMany then [] else [.addUnique t.name k.name])
    else .error (.unknownColumn t.name (label k.target) sought)

/-- The statements for all foreign keys, table by table. -/
def foreignKeysAll (tables : List Referable) : List (ResolvedTable × ForeignKey) →
    Except ScriptError (List Statement)
  | [] => .ok []
  | (t, k) :: rest => return (← foreignKeyStatements tables t k) ++ (← foreignKeysAll tables rest)

/-- The statements that create the tables and then add their foreign keys. -/
def script (d : Dialect) (tables : List ResolvedTable) : Except ScriptError (List Statement) := do
  let created ← createAll d [] tables
  let referables ← referables [] tables
  let keys := tables.flatMap fun t => t.foreignKeys.map (t, ·)
  return created ++ (← foreignKeysAll referables keys)

/-- The texts of a script. -/
def generate (style : Style) (tables : List ResolvedTable) : Except ScriptError (List String) :=
  (script style.dialect tables).map fun statements => statements.map (·.render style)

end ShapeTables.Sql
