import ShapeTables.Flat.Table
import ShapeTables.Shape.Pointer

/-! Flattening of shapes. Every table of a shape becomes a flat table, named by the path that leads to it; an
array whose items are no tables becomes a table with the one column value. A nested table refers back to the
key of the table around it, and this reference takes the place of a property of the same name. The nested
tables of a table come right before it, each with the tables nested in it. -/
namespace ShapeTables.Flat

open Shape (Items ValueColumn qualifiedName)

/-- The reference from a nested table to the table around it. -/
structure BackReference where
  name : String
  pointer : String
deriving DecidableEq, Repr

/-- The back reference of what is nested in the table at the end of a path. -/
def BackReference.to (path : List String) (key : String) : BackReference :=
  ⟨qualifiedName (path ++ [key]), Shape.Pointer.build path key⟩

/-- The properties with a back reference, in the place of the property of its name or at the end. -/
def putBack (back : BackReference) : List (String × Shape.Column) → List (String × Shape.Column)
  | [] => [(back.name, .ref back.pointer)]
  | (name, column) :: rest =>
    if name = back.name then (name, .ref back.pointer) :: rest else (name, column) :: putBack back rest

def withBack (back : Option BackReference) (properties : List (String × Shape.Column)) :
    List (String × Shape.Column) :=
  match back with
  | some back => putBack back properties
  | none => properties

def flatColumn? : String × Shape.Column → Option Column
  | (name, .value column) =>
    some ⟨name, .ofValueType column.type, column.default, column.enum, column.description⟩
  | _ => none

def flatReference? (schemaPath : List String) (oneToMany : Bool) : String × Shape.Column → Option Reference
  | (name, .ref pointer) => some ⟨name, pointer, schemaPath, oneToMany⟩
  | _ => none

/-- The flat table of one table, without what is nested in it. -/
def flatTable (path schemaPath : List String) (back : Option BackReference) (oneToMany : Bool)
    (t : Shape.Table) : Table :=
  let properties := withBack back t.properties
  { name := qualifiedName path
    required := t.required
    primaryKey := t.effectiveKey?
    columns := properties.filterMap flatColumn?
    references := properties.filterMap (flatReference? schemaPath oneToMany) }

/-- The table that holds the items of an array, one in a row. -/
def wrapper (items : Shape.Column) : Shape.Table := ⟨[("value", items)], none, none⟩

mutual

/-- The flat tables of a table at the end of a path, `schemaPath` being the steps to its properties. -/
def flattenTable (path schemaPath : List String) (back : Option BackReference) (oneToMany : Bool) :
    Shape.Table → List Table
  | ⟨properties, required, primaryKey⟩ =>
    let t : Shape.Table := ⟨properties, required, primaryKey⟩
    flattenProperties path schemaPath (back.map (·.name)) (.to path t.joinKey) properties ++
      [flatTable path schemaPath back oneToMany t]

/-- The flat tables nested in properties; the property named `replaced` has given way to a reference. -/
def flattenProperties (path schemaPath : List String) (replaced : Option String) (back : BackReference) :
    List (String × Shape.Column) → List Table
  | [] => []
  | (name, column) :: rest =>
    (if replaced = some name then []
      else flattenColumn (path ++ [name]) (schemaPath ++ [name]) back column) ++
      flattenProperties path schemaPath replaced back rest

def flattenColumn (path schemaPath : List String) (back : BackReference) : Shape.Column → List Table
  | .ref _ => []
  | .value _ => []
  | .table t => flattenTable path (schemaPath ++ ["properties"]) (some back) false t
  | .array items => flattenItems path (schemaPath ++ ["items", "properties"]) back items

def flattenItems (path schemaPath : List String) (back : BackReference) : Items → List Table
  | .ref pointer => [flatTable path schemaPath (some back) true (wrapper (.ref pointer))]
  | .value column => [flatTable path schemaPath (some back) true (wrapper (.value column))]
  | .table t => flattenTable path schemaPath (some back) true t

end

/-- The flat tables of a shape. -/
def flatten (db : Shape.Database) : List Table :=
  db.tables.flatMap fun (name, t) => flattenTable [name] ["properties", name, "properties"] none false t

end ShapeTables.Flat
