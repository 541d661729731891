import ShapeTables.Decimal.Layout
import ShapeTables.Reading
import ShapeTables.Shape.Basic
import ShapeTables.Shape.Tag
import ShapeTables.Text.Quoted

/-! Reading shapes from documents. A table is a map of type object with a map of properties; a column is told
apart by its tag before it is read, and its faults are located below that tag. Fields that a table or column
does not have are passed over. A column whose type is a list or a map has no tag that could be looked up, and
the whole reading is refused. -/
namespace ShapeTables.Shape

open Reading

/-- The key of a member as a step: a number of 64 bits by its value, anything else as messages show it. -/
def keyStep : Scalar → Step
  | .text s => .name s
  | .int n =>
    if -wordBound ≤ n ∧ n < wordBound then .index n
    else .name (if Text.isWritable n then toString n else "<unprintable int object>")
  | .bool b => .index (if b then 1 else 0)
  | .null => .name "None"
  | .float x => .name (Decimal.Layout.plain.text x)
  | .nan _ => .name Decimal.Layout.plain.notANumber
  | .moment m => .name m.shown
  | .bytes octets => .name (Text.quotedOctets octets)

def readConstant : Value → Reading Constant
  | .bool b => .ok (.bool b)
  | .int n => .ok (.int n)
  | .float x => .ok (.float x)
  | .nan _ => .ok (.float notANumber)
  | .text s => .ok (.text s)
  | _ => .error (.faults [⟨[.name "bool"], .notBool⟩, ⟨[.name "int"], .notInt⟩,
      ⟨[.name "float"], .notNumber⟩, ⟨[.name "str"], .notText⟩])

def formats : List (String × Format) :=
  [Format.uuid, .date, .datetime].map fun f => (f.name, f)

/-- The tag of a column with the given fields: a reference whenever it has the reference field, else by its
type. -/
def tagOf (members : List (Scalar × Value)) : Reading (Option Tag) :=
  match member? members "$ref" with
  | some _ => .ok (some .ref)
  | none => match member? members "type" with
    | some (.text s) => .ok <|
      if s = "boolean" ∨ s = "number" ∨ s = "integer" then some .literal
      else if s = "string" then some .string
      else if s = "array" then some .array
      else if s = "object" then some .object
      else none
    | some (.list _) | some (.map _) | some (.set _) => .error .unhashable
    | _ => .ok none

/-- The tag of a value, none for what is not a map. -/
def tag? : Value → Reading (Option Tag)
  | .map members => tagOf members
  | _ => .ok none

def literalType (members : List (Scalar × Value)) : ValueType :=
  match member? members "type" with
  | some (.text "boolean") => .boolean
  | some (.text "number") => .number
  | _ => .integer

/-- The fields that all value columns have. -/
def readConstants (members : List (Scalar × Value)) :
    Reading (Option Constant × Option (List Constant) × Option String) :=
  both (optional members "default" none (nullable readConstant))
    (both (optional members "enum" none (nullable (list readConstant)))
      (optional members "description" none (nullable text)))

def readLiteral (members : List (Scalar × Value)) : Reading ValueColumn :=
  (readConstants members).map fun (default, enum, description) =>
    ⟨literalType members, default, enum, description⟩

def readString (members : List (Scalar × Value)) : Reading ValueColumn :=
  (both (readConstants members) (optional members "format" none (nullable (among formats)))).map
    fun ((default, enum, description), format) => ⟨.string format, default, enum, description⟩

def readRef (members : List (Scalar × Value)) : Reading String := required members "$ref" text

def readType (members : List (Scalar × Value)) : Reading Unit :=
  required members "type" (among [("object", ())])

/-- The name of the key column, by the first of two fields that is there. -/
def readPrimaryKey (members : List (Scalar × Value)) : Reading (Option String) :=
  match member? members "x-primaryKey" with
  | some v => (nullable text v).under (.name "x-primaryKey")
  | none => optional members "primary_key" none (nullable text)

/-- A field whose reading is at hand, if it is there. -/
def present (name : String) (found : Option (Reading α)) : Reading α :=
  (found.getD (fault .missing)).under (.name name)

/-- A member of a map of named things: the key has to be a text. -/
def entry (key : Scalar) (v : Reading α) : Reading (String × α) :=
  (both ((textOf key).under (.name "[key]")) v).under (keyStep key)

/-- Puts a thing under a name: in the place of the one that is there, else at the end. -/
def putNamed (things : List (String × α)) (name : String) (x : α) : List (String × α) :=
  match things with
  | [] => [(name, x)]
  | (n, y) :: rest => if n = name then (n, x) :: rest else (n, y) :: putNamed rest name x

/-- Named things with each name once, since two keys can be one text. -/
def named (things : List (String × α)) : List (String × α) :=
  things.foldl (fun found (name, x) => putNamed found name x) []

/-- A table from its fields and the readings of its properties. -/
def assemble (members : List (Scalar × Value)) (properties : Option (Reading (List (String × α)))) :
    Reading (TableOf α) :=
  (both (readType members) (both (present "properties" properties)
    (both (optional members "required" none (nullable (list text))) (readPrimaryKey members)))).map
    fun (_, properties, required, primaryKey) => ⟨properties, required, primaryKey⟩

/-- A column of a kind from the reading of its fields. -/
def tagged (tag : Tag) (column : α → β) (fields : Reading α) : Reading β :=
  under (.name tag.name) (fields.map column)

mutual

def readColumn : Value → Reading Column
  | .map members => match tagOf members with
    | .error e => .error e
    | .ok none => fault .unknownColumn
    | .ok (some .ref) => tagged .ref .ref (readRef members)
    | .ok (some .literal) => tagged .literal .value (readLiteral members)
    | .ok (some .string) => tagged .string .value (readString members)
    | .ok (some .array) => tagged .array .array (present "items" (itemsIn members))
    | .ok (some .object) =>
      tagged .object .table (assemble members (propertiesIn members))
  | _ => fault .unknownColumn

def readItems : Value → Reading Items
  | .map members => match tagOf members with
    | .error e => .error e
    | .ok none | .ok (some .array) => fault .unknownItems
    | .ok (some .ref) => tagged .ref .ref (readRef members)
    | .ok (some .literal) => tagged .literal .value (readLiteral members)
    | .ok (some .string) => tagged .string .value (readString members)
    | .ok (some .object) =>
      tagged .object .table (assemble members (propertiesIn members))
  | _ => fault .unknownItems

/-- The reading of the items field. -/
def itemsIn : List (Scalar × Value) → Option (Reading Items)
  | [] => none
  | (key, v) :: rest => if key = .text "items" then some (readItems v) else itemsIn rest

/-- The reading of the properties field of a table. -/
def propertiesIn : List (Scalar × Value) → Option (Reading (List (String × Column)))
  | [] => none
  | (key, v) :: rest => if key = .text "properties" then some (readProperties v) else propertiesIn rest

def readProperties : Value → Reading (List (String × Column))
  | .map members => (readColumns members).map named
  | _ => fault .notMap

def readColumns : List (Scalar × Value) → Reading (List (String × Column))
  | [] => .ok []
  | (key, v) :: rest => cons (entry key (readColumn v)) (readColumns rest)

end

def readTable : Value → Reading Table
  | .map members => assemble members (propertiesIn members)
  | _ => fault (.notModel "TableShape")

def readTables : Value → Reading (List (String × Table))
  | .map members =>
    (members.foldr (fun (key, v) tables => cons (entry key (readTable v)) tables) (.ok [])).map named
  | _ => fault .notMap

/-- The shape that a document describes; faults are located with their tags. -/
def read : Value → Reading Database
  | .map members =>
    (both (readType members) (required members "properties" readTables)).map fun (_, tables) => ⟨tables⟩
  | _ => fault (.notModel "DatabaseShape")

end ShapeTables.Shape
