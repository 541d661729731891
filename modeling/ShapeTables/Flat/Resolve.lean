import ShapeTables.Problem
import ShapeTables.Flat.Table

/-! Resolution of references. A pointer is looked up among the flat tables, the first table of a name being
the one that counts, and must lead to a column of a type that can be a key. All problems are reported: the
names that more than one table has, then the references that lead nowhere, table by table. -/
namespace ShapeTables.Flat

def Reference.loc (r : Reference) : Location :=
  r.schemaPath.map .name ++ [.name r.name, .name "$ref"]

/-- One problem for each table that has the name of a table before it; `seen` are the names so far. -/
def duplicateProblems (seen : List String) : List Table → List Problem
  | [] => []
  | t :: rest =>
    if t.name ∈ seen then ⟨[.name t.name], .duplicateTable t.name⟩ :: duplicateProblems seen rest
    else duplicateProblems (t.name :: seen) rest

/-- The foreign key that a reference stands for, or why it stands for none. -/
def resolveReference (tables : List Table) (r : Reference) : Except Problem ForeignKey :=
  let (table, column) := Shape.Pointer.split r.pointer
  match tables.find? fun t => t.name = table with
  | none => .error ⟨r.loc, .unknownTable r.pointer table⟩
  | some target => match target.findColumn? column with
    | none => .error ⟨r.loc,
        if (target.findReference? column).isSome then .targetsReference r.pointer table column
        else .unknownColumn r.pointer table column⟩
    | some found =>
      if found.type.isKeyType then .ok ⟨r.name, found.type, ⟨target.name, found.name⟩, r.oneToMany⟩
      else .error ⟨r.loc, .targetsType r.pointer table column found.type⟩

/-- The problems with references, in order. -/
def referenceProblems (tables : List Table) : List Problem :=
  tables.flatMap fun t => t.references.filterMap fun r => match resolveReference tables r with
    | .error p => some p
    | .ok _ => none

/-- A table with the foreign keys of those of its references that can be resolved. -/
def resolveTable (tables : List Table) (t : Table) : ResolvedTable :=
  { t with foreignKeys := t.references.filterMap fun r => (resolveReference tables r).toOption }

/-- The tables with their foreign keys, or all problems. -/
def resolve (tables : List Table) : Except (List Problem) (List ResolvedTable) :=
  match duplicateProblems [] tables ++ referenceProblems tables with
  | [] => .ok (tables.map (resolveTable tables))
  | problems => .error problems

end ShapeTables.Flat
