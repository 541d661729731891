import ShapeTables.Proofs.ColumnDefinitions
import ShapeTables.Proofs.PrimaryKeys

/-! Tables that are created without columns. A script creates one table for each kept node of the shape, with the values
that the node declares as its columns; the columns of references are added later. So a table is empty at first when its
node declares no values, as that of an array of references. A node with nested tables has a key, which is one of its
values. -/
namespace ShapeTables

namespace Sql

open Flat (ResolvedTable)

/-- The definition of the table that a statement creates. -/
def Statement.created? : Statement → Option TableSpec
  | .createTable spec => some spec
  | _ => none

theorem created?_createStatements (d : Dialect) (spec : TableSpec) :
    (createStatements d spec).filterMap Statement.created? = [spec] :=
  Catalog.filterMap_createStatements (fun _ _ _ => rfl) d spec

/-- A script creates its tables in order. -/
theorem created?_statementsFor (d : Dialect) (tables : List ResolvedTable) :
    (statementsFor d tables).filterMap Statement.created? = tables.map tableSpec := by
  have hkeys : ∀ t k, (keyStatements t k).filterMap Statement.created? = [] := by
    intro t k
    cases hmany : k.oneToMany <;> simp [keyStatements, hmany, List.filterMap_cons, Statement.created?]
  rw [statementsFor, List.filterMap_append, List.filterMap_flatMap, List.filterMap_flatMap]
  simp only [created?_createStatements, List.filterMap_flatMap, hkeys]
  simp [← List.map_eq_flatMap]

theorem creates_tableSpec_iff {style : Style} {t : ResolvedTable} {name type : String} :
    (Statement.createTable (tableSpec t)).Creates style ⟨t.name, name⟩ type ↔
      ∃ c ∈ t.columns, c.name = name ∧ style.typeText c.type = type := by
  rw [Statement.creates_iff]
  constructor
  · rintro ⟨_, heq, -, c, hc, hcolumn⟩
    cases heq
    obtain ⟨own, hown, rfl⟩ := List.mem_map.mp hc
    exact ⟨own, hown, hcolumn⟩
  · rintro ⟨c, hc, hcolumn⟩
    exact ⟨_, rfl, rfl, columnSpec t c, List.mem_map_of_mem hc, hcolumn⟩

end Sql

namespace Flat

variable {n : Node} {name : String}

/-- A property of a node that has values and keeps its place, since no back reference has its name. -/
def Node.KeepsValue (n : Node) (name : String) : Prop :=
  (∃ c, (name, .value c) ∈ n.table.properties) ∧ ∀ back, n.way.back = some back → back.name ≠ name

theorem Node.keepsValue_iff (hdistinct : n.Distinct) :
    n.KeepsValue name ↔ ∃ c, (name, .value c) ∈ n.properties := by
  rw [KeepsValue, ← exists_and_right]
  refine exists_congr fun c => ?_
  cases hback : n.way.back with
  | none => simp [Node.properties, hback, withBack]
  | some back => simp [Node.mem_properties_iff hdistinct hback, eq_comm]

theorem Node.exists_column_iff (hdistinct : n.Distinct) :
    (∃ c ∈ n.flat.columns, c.name = name) ↔ n.KeepsValue name := by
  rw [keepsValue_iff hdistinct]
  constructor
  · rintro ⟨c, hc, rfl⟩
    obtain ⟨name, declared, hp, rfl⟩ := mem_flatColumns_iff.mp hc
    exact ⟨declared, hp⟩
  · rintro ⟨c, hp⟩
    exact ⟨_, mem_flatColumns_iff.mpr ⟨name, c, hp, rfl⟩, rfl⟩

/-- A node with nested tables keeps its key, unless its back reference has the name of the key. -/
theorem Node.Regular.keepsValue_joinKey (h : n.Regular) (hchildren : n.children ≠ [])
    (hback : ∀ back, n.way.back = some back → back.name ≠ n.table.joinKey) : n.KeepsValue n.table.joinKey := by
  obtain ⟨child, hchild⟩ := List.exists_mem_of_ne_nil _ hchildren
  obtain ⟨c, hc, -⟩ := h.key_mem (h.effectiveKey?_eq hchild)
  exact ⟨⟨c, hc⟩, hback⟩

/-- A definition of the table of a node that has the values of the node as its columns: all of those that keep their
place, among them the key if there are nested tables, and none if the node declares no values. -/
structure Node.CreatedBy (style : Sql.Style) (n : Node) (spec : Sql.TableSpec) : Prop where
  name_eq : spec.name = Shape.qualifiedName n.way.path
  creates : ∀ name, n.KeepsValue name → ∃ type, (Sql.Statement.createTable spec).Creates style ⟨spec.name, name⟩ type
  creates_key : n.children ≠ [] → (∀ back, n.way.back = some back → back.name ≠ n.table.joinKey) →
    ∃ type, (Sql.Statement.createTable spec).Creates style ⟨spec.name, n.table.joinKey⟩ type
  empty : (∀ name c, (name, .value c) ∉ n.table.properties) →
    ∀ name type, ¬(Sql.Statement.createTable spec).Creates style ⟨spec.name, name⟩ type

theorem Node.createdBy (style : Sql.Style) (hregular : n.Regular) (hdistinct : n.Distinct) (flats : List Table) :
    n.CreatedBy style (Sql.tableSpec (resolveTable flats n.flat)) := by
  have hcreates : ∀ name, (∃ type, (Sql.Statement.createTable (Sql.tableSpec (resolveTable flats n.flat))).Creates style
      ⟨n.flat.name, name⟩ type) ↔ n.KeepsValue name := by
    intro name
    rw [← exists_column_iff hdistinct]
    constructor
    · rintro ⟨type, h⟩
      obtain ⟨c, hc, hname, -⟩ := Sql.creates_tableSpec_iff.mp h
      exact ⟨c, hc, hname⟩
    · rintro ⟨c, hc, hname⟩
      exact ⟨_, Sql.creates_tableSpec_iff.mpr ⟨c, hc, hname, rfl⟩⟩
  refine ⟨rfl, fun name => (hcreates name).mpr, fun hchildren hback => ?_, fun hnone name type h => ?_⟩
  · exact (hcreates _).mpr (hregular.keepsValue_joinKey hchildren hback)
  · obtain ⟨⟨c, hc⟩, -⟩ := (hcreates name).mp ⟨type, h⟩
    exact hnone name c hc

end Flat

open Flat (Node nodes)

/-- The script of a compiled document creates one table for each kept node of the shape, in order: with the values of
the node as its columns, and so with none if the node declares no values. -/
theorem created_with_values {document : Value} {tables : List Flat.ResolvedTable} {style : Sql.Style}
    {texts : List String} (h : compile document = .ok tables) (hgenerate : generate style tables = .ok texts) :
    ∃ db statements, validate document = .ok db ∧ Sql.script style.dialect tables = .ok statements ∧
      texts = statements.map (·.render style) ∧
      List.Forall₂ (Node.CreatedBy style) ((nodes db).filter (·.way.kept))
        (statements.filterMap Sql.Statement.created?) := by
  obtain ⟨db, hvalid, hresolve⟩ := compile_eq_ok_iff.mp h
  obtain ⟨-, hread, hproblems⟩ := validate_eq_ok_iff.mp hvalid
  obtain ⟨statements, hscript, htexts⟩ := generate_eq_ok_iff.mp hgenerate
  obtain ⟨-, rfl⟩ := (Sql.script_eq_ok_iff (Flat.names_nodup_of_compile h)).mp hscript
  obtain ⟨-, -, rfl⟩ := Flat.resolve_eq_ok_iff.mp hresolve
  refine ⟨db, _, hvalid, hscript, htexts, ?_⟩
  rw [Sql.created?_statementsFor, List.map_map, Flat.flatten_eq_map_nodes, List.map_map, List.forall₂_map_right_iff,
    List.forall₂_same]
  intro n hn
  have hmem := List.mem_of_mem_filter hn
  exact n.createdBy style (Flat.regular_of_problems_eq_nil hproblems n hmem) (Flat.distinct_of_read hread n hmem) _

theorem staff_created_with_values : ∃ tables texts, compile staff = .ok tables ∧
    generate ⟨.mysql, 255⟩ tables = .ok texts ∧ ∃ db statements, validate staff = .ok db ∧
      Sql.script .mysql tables = .ok statements ∧ texts = statements.map (·.render ⟨.mysql, 255⟩) ∧
      List.Forall₂ (Node.CreatedBy ⟨.mysql, 255⟩) ((nodes db).filter (·.way.kept))
        (statements.filterMap Sql.Statement.created?) := by
  obtain ⟨tables, hcompile, texts, hgenerate⟩ := generate_staff ⟨.mysql, 255⟩
  exact ⟨tables, texts, hcompile, hgenerate, created_with_values hcompile hgenerate⟩

/-- People who know each other. -/
def acquaintances : Value := objectOf
  [("people", objectOf [("id", typed "integer"), ("known", arrayOf (pointing "#/people/id"))])]

/-- The table of an array of references is created without columns. -/
theorem acquaintances_created_empty : ∃ tables texts, compile acquaintances = .ok tables ∧
    generate ⟨.mysql, 255⟩ tables = .ok texts ∧ texts[0]? = some "CREATE TABLE people_known (\n);" ∧
    ∃ statements spec, Sql.script .mysql tables = .ok statements ∧ .createTable spec ∈ statements ∧
      spec.columns = [] :=
  ⟨_, _, rfl, rfl, rfl, _, _, rfl, List.mem_cons_self, rfl⟩

end ShapeTables
