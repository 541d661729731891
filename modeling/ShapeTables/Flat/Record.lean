import ShapeTables.Flat.Table
import ShapeTables.Shape.Reader

/-! Flat tables as values. Writing yields a map with every field of a table, in a fixed order and with null
for what is absent; reading takes such maps, fills in absent fields and reports the faults of all others. -/
namespace ShapeTables.Flat

open Shape (Constant readConstant)
open Reading

/-! ### Writing -/

def optionalText (s : Option String) : Value := (s.map Value.text).getD .null

def ofConstant : Constant → Value
  | .bool b => .bool b
  | .int n => .int n
  | .float x => .scalar (.ofFloat x)
  | .text s => .text s

def Column.toValue (c : Column) : Value :=
  .object [("name", .text c.name), ("type", .text c.type.name),
    ("default", (c.default.map ofConstant).getD .null),
    ("enum", (c.enum.map fun members => .list (members.map ofConstant)).getD .null),
    ("description", optionalText c.description)]

def Reference.toValue (r : Reference) : Value :=
  .object [("name", .text r.name), ("reference", .text r.pointer), ("schema_path", .texts r.schemaPath),
    ("one_to_many", .bool r.oneToMany)]

def Target.toValue (t : Target) : Value :=
  .object [("table", .text t.table), ("column", .text t.column)]

def ForeignKey.toValue (k : ForeignKey) : Value :=
  .object [("name", .text k.name), ("type", .text k.type.name), ("reference", k.target.toValue),
    ("one_to_many", .bool k.oneToMany)]

def Table.fields (t : Table) : List (String × Value) :=
  [("name", .text t.name), ("required", (t.required.map Value.texts).getD .null),
    ("primary_key", optionalText t.primaryKey),
    ("visited_columns", .list (t.columns.map Column.toValue)),
    ("unresolved_references", .list (t.references.map Reference.toValue))]

def Table.toValue (t : Table) : Value := .object t.fields

def ResolvedTable.toValue (t : ResolvedTable) : Value :=
  .object (t.fields ++ [("resolved_references", .list (t.foreignKeys.map ForeignKey.toValue))])

/-! ### Reading -/

/-- A map with the fields of a model. -/
def model (name : String) (read : List (Scalar × Value) → Reading α) : Value → Reading α
  | .map members => read members
  | _ => fault (.notModel name)

def keyTypes : List (String × ColumnType) :=
  ColumnType.byName.filter fun (_, type) => type.isKeyType

def readColumn : Value → Reading Column := model "VisitedColumn" fun members =>
  (both (required members "name" text) (both (required members "type" (among ColumnType.byName))
    (Shape.readConstants members))).map
    fun (name, type, default, enum, description) => ⟨name, type, default, enum, description⟩

def readReference : Value → Reading Reference := model "UnresolvedReference" fun members =>
  (both (required members "name" text) (both (required members "reference" text)
    (both (optional members "schema_path" [] (list text)) (optional members "one_to_many" false bool)))).map
    fun (name, pointer, schemaPath, oneToMany) => ⟨name, pointer, schemaPath, oneToMany⟩

def readTarget : Value → Reading Target := model "ReferenceTarget" fun members =>
  (both (required members "table" text) (required members "column" text)).map
    fun (table, column) => ⟨table, column⟩

def readForeignKey : Value → Reading ForeignKey := model "ResolvedReference" fun members =>
  (both (required members "name" text) (both (required members "type" (among keyTypes))
    (both (required members "reference" readTarget) (optional members "one_to_many" false bool)))).map
    fun (name, type, target, oneToMany) => ⟨name, type, target, oneToMany⟩

def readFields (members : List (Scalar × Value)) : Reading Table :=
  (both (required members "name" text)
    (both (optional members "required" none (nullable (list text)))
      (both (optional members "primary_key" none (nullable text))
        (both (optional members "visited_columns" [] (list readColumn))
          (optional members "unresolved_references" [] (list readReference)))))).map
    fun (name, required, primaryKey, columns, references) => ⟨name, required, primaryKey, columns, references⟩

def readTable : Value → Reading Table := model "VisitedTable" readFields

def readResolvedTable : Value → Reading ResolvedTable := model "ResolvedTable" fun members =>
  (both (readFields members) (optional members "resolved_references" [] (list readForeignKey))).map
    fun (t, foreignKeys) => { t with foreignKeys }

def readTables : Value → Reading (List Table) := list readTable

def readResolvedTables : Value → Reading (List ResolvedTable) := list readResolvedTable

end ShapeTables.Flat
