import ShapeTables.Problem
import ShapeTables.Shape.Basic

/-! Rules that a shape has to keep. Pointers are well formed; a key is a property, and none of a kind that
cannot be pointed at; a table that has nested tables or arrays has a key; required fields are properties. A
table reports the problems of its properties first, in their order, and then its own. -/
namespace ShapeTables.Shape

/-- Why a column cannot be a key, if it cannot. -/
def Column.keyProblem? : Column → Option KeyProblem
  | .ref _ => some .reference
  | .table _ => some (.typed "object")
  | .array _ => some (.typed "array")
  | .value column => match column.type with
    | .number => some (.typed "number")
    | .string (some .date) => some (.formatted "string" "date")
    | .string (some .datetime) => some (.formatted "string" "datetime")
    | _ => none

/-- The type of a column that makes a table of its own. -/
def Column.nestedType? : Column → Option String
  | .array _ => some "array"
  | .table _ => some "object"
  | _ => none

def refProblems (loc : Location) (pointer : String) : List Problem :=
  (Pointer.problems pointer).map fun p => ⟨loc ++ [.name "$ref"], .pointerForm p⟩

/-- The first property that makes a table of its own, with its type. -/
def firstNested? (properties : List (String × Column)) : Option (String × String) :=
  properties.findSome? fun (name, column) => column.nestedType?.map (name, ·)

/-- Problems with the key of a table that names none: the column id, or the lack of it. -/
def impliedKeyProblems (loc : Location) (t : Table) : List Problem :=
  match t.find? "id" with
  | some column => column.keyProblem?.toList.map fun p =>
      ⟨loc ++ [.name "properties", .name "id"], .idKey p⟩
  | none => (firstNested? t.properties).toList.map fun (name, type) =>
      ⟨loc ++ [.name "properties", .name name], .keyless name type⟩

def namedKeyProblems (loc : Location) (t : Table) (key : String) : List Problem :=
  match t.find? key with
  | none => [⟨loc ++ [.name "x-primaryKey"], .unknownKey key⟩]
  | some column => column.keyProblem?.toList.map fun p => ⟨loc ++ [.name "x-primaryKey"], .namedKey p⟩

/-- The required fields from index `start` on that are no properties. -/
def requiredProblems (loc : Location) (t : Table) (start : Nat) : List String → List Problem
  | [] => []
  | name :: rest =>
    (if (t.find? name).isSome then [] else [⟨loc ++ [.name "required", .index start], .missingField name⟩]) ++
      requiredProblems loc t (start + 1) rest

/-- The problems of a table that do not lie in its properties. -/
def ownProblems (loc : Location) (t : Table) : List Problem :=
  (match t.explicitKey? with
    | some _ => []
    | none => impliedKeyProblems loc t) ++
  requiredProblems loc t 0 (t.required.getD []) ++
  (match t.explicitKey? with
    | some key => namedKeyProblems loc t key
    | none => [])

mutual

def tableProblems (loc : Location) : Table → List Problem
  | ⟨properties, required, primaryKey⟩ =>
    propertyProblems loc properties ++ ownProblems loc ⟨properties, required, primaryKey⟩

def propertyProblems (loc : Location) : List (String × Column) → List Problem
  | [] => []
  | (name, column) :: rest =>
    columnProblems (loc ++ [.name "properties", .name name]) column ++ propertyProblems loc rest

def columnProblems (loc : Location) : Column → List Problem
  | .ref pointer => refProblems loc pointer
  | .value _ => []
  | .table t => tableProblems loc t
  | .array items => itemProblems (loc ++ [.name "items"]) items

def itemProblems (loc : Location) : Items → List Problem
  | .ref pointer => refProblems loc pointer
  | .value _ => []
  | .table t => tableProblems loc t

end

/-- All problems of a shape, in document order. -/
def Database.problems (db : Database) : List Problem :=
  db.tables.flatMap fun (name, t) => tableProblems [.name "properties", .name name] t

end ShapeTables.Shape
