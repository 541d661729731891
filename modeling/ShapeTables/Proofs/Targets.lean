import ShapeTables.Proofs.Catalog

/-! Where the foreign keys of a script lead. A script has one statement for each foreign key of a compiled document,
table by table and in order. The statement is about the table and the name of the foreign key; it leads to the
target of the foreign key exactly when the column of the target has no dot, since the script looks the target up
by a label that is cut at its last dot. -/
namespace ShapeTables

namespace Sql

open Flat (ForeignKey ResolvedTable Target)

/-- The table, the column and the target of a statement that adds a foreign key. -/
def Statement.foreignKey? : Statement → Option (String × String × Target)
  | .addForeignKey table column target => some (table, column, target)
  | _ => none

/-- The foreign keys of tables, each with its table. -/
def keysOf (tables : List ResolvedTable) : List (ResolvedTable × ForeignKey) :=
  tables.flatMap fun t => t.foreignKeys.map (t, ·)

theorem foreignKey?_createStatements (d : Dialect) (spec : TableSpec) :
    (createStatements d spec).filterMap Statement.foreignKey? = [] :=
  Catalog.filterMap_createStatements (fun _ _ _ => rfl) d spec

theorem foreignKey?_keyStatements (t : ResolvedTable) (k : ForeignKey) :
    (keyStatements t k).filterMap Statement.foreignKey? = [(t.name, k.name, labelled (label k.target))] := by
  cases hmany : k.oneToMany <;> simp [keyStatements, hmany, List.filterMap_cons, Statement.foreignKey?]

/-- A script adds the foreign keys of its tables in order. -/
theorem foreignKey?_statementsFor (d : Dialect) (tables : List ResolvedTable) :
    (statementsFor d tables).filterMap Statement.foreignKey? =
      (keysOf tables).map fun (t, k) => (t.name, k.name, labelled (label k.target)) := by
  have hcreate : (tables.flatMap fun t => createStatements d (tableSpec t)).filterMap Statement.foreignKey? = [] := by
    simp [List.filterMap_flatMap, foreignKey?_createStatements]
  rw [statementsFor, List.filterMap_append, hcreate, List.nil_append, List.filterMap_flatMap, keysOf, List.map_flatMap]
  refine List.flatMap_congr fun t _ => ?_
  simp only [List.filterMap_flatMap, foreignKey?_keyStatements, ← List.map_eq_flatMap, List.map_map]
  rfl

end Sql

open Flat (ResolvedTable)
open Sql (keysOf)

/-- The statements of a script that add foreign keys are about the foreign keys of the tables one by one; such a
statement leads to the target of its foreign key exactly when the column of the target has no dot. -/
theorem foreignKeyStatements_lead_iff {document : Value} {tables : List ResolvedTable} {style : Sql.Style}
    {texts : List String} (h : compile document = .ok tables) (hgenerate : generate style tables = .ok texts) :
    ∃ statements, Sql.script style.dialect tables = .ok statements ∧ texts = statements.map (·.render style) ∧
      List.Forall₂ (fun (table, column, target) (t, k) => table = t.name ∧ column = k.name ∧
          (target = k.target ↔ '.' ∉ k.target.column.toList))
        (statements.filterMap Sql.Statement.foreignKey?) (keysOf tables) := by
  obtain ⟨statements, hscript, htexts⟩ := generate_eq_ok_iff.mp hgenerate
  have hnodup := Flat.names_nodup_of_compile h
  obtain ⟨-, rfl⟩ := (Sql.script_eq_ok_iff hnodup).mp hscript
  refine ⟨_, hscript, htexts, ?_⟩
  rw [Sql.foreignKey?_statementsFor, List.forall₂_map_left_iff, List.forall₂_same]
  rintro ⟨t, k⟩ -
  exact ⟨rfl, rfl, Sql.labelled_label_eq_iff.trans (and_iff_left rfl)⟩

theorem foreignKeyStatements_of_staff : ∃ tables texts, compile staff = .ok tables ∧
    generate ⟨.mysql, 80⟩ tables = .ok texts ∧ ∃ statements, Sql.script .mysql tables = .ok statements ∧
      texts = statements.map (·.render ⟨.mysql, 80⟩) ∧
      List.Forall₂ (fun (table, column, target) (t, k) => table = t.name ∧ column = k.name ∧
          (target = k.target ↔ '.' ∉ k.target.column.toList))
        (statements.filterMap Sql.Statement.foreignKey?) (keysOf tables) := by
  obtain ⟨tables, hcompile, texts, hgenerate⟩ := generate_staff ⟨.mysql, 80⟩
  exact ⟨tables, texts, hcompile, hgenerate, foreignKeyStatements_lead_iff hcompile hgenerate⟩

/-- Columns of different tables that have the same label, and a reference to the first of them. -/
def sameLabel : Value := objectOf
  [("a", objectOf [("b.c", typed "integer")]), ("a.b", objectOf [("c", typed "string")]),
   ("t", objectOf [("r", pointing "#/a/b.c")])]

/-- The foreign key leads to the second of them. -/
theorem sameLabel_misled : ∃ tables texts, compile sameLabel = .ok tables ∧
    (keysOf tables).map (fun (t, k) => (t.name, k.name, k.target)) = [("t", "r", ⟨"a", "b.c"⟩)] ∧
    generate ⟨.postgresql, 255⟩ tables = .ok texts ∧
    texts[4]? = some ((Sql.Statement.addForeignKey "t" "r" ⟨"a.b", "c"⟩).render ⟨.postgresql, 255⟩) :=
  ⟨_, _, rfl, rfl, rfl, rfl⟩

end ShapeTables
