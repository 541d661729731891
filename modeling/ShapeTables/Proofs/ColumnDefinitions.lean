import ShapeTables.Proofs.Targets

/-! Columns as a script defines them. A column is defined by its name and its type, either where its table is created
or by a statement that adds it. The script of a compiled document creates each table with its own columns and adds a
column for each foreign key, so that every column is defined in one place only; and the column of a foreign key is
written with the type that the column it leads to is written with. -/
namespace ShapeTables

namespace Sql

open Flat (ForeignKey ResolvedTable Target)

/-- The name and the type that the definition of a column begins with. -/
def definitionHead (name type : String) : List Lexeme := [.name name, .word " ", .word type]

theorem ColumnSpec.exists_lexemes (style : Style) (c : ColumnSpec) :
    ∃ rest, c.lexemes style = definitionHead c.name (style.typeText c.type) ++ rest :=
  ⟨_, rfl⟩

theorem ColumnSpec.lexemes_eq_iff {style : Style} {c : ColumnSpec} {name type : String} :
    (∃ rest, c.lexemes style = definitionHead name type ++ rest) ↔ c.name = name ∧ style.typeText c.type = type := by
  obtain ⟨written, hwritten⟩ := c.exists_lexemes style
  rw [hwritten]
  constructor
  · rintro ⟨rest, h⟩
    have hhead : definitionHead c.name (style.typeText c.type) = definitionHead name type :=
      List.append_inj_left h rfl
    simpa [definitionHead] using hhead
  · rintro ⟨rfl, rfl⟩
    exact ⟨written, rfl⟩

namespace Statement

/-- A statement that creates the table of a column with the column in it, of the given type. -/
def Creates (style : Style) (column : Target) (type : String) (s : Statement) : Prop :=
  ∃ spec rest, s = .createTable spec ∧ spec.name = column.table ∧
    definitionHead column.column type ++ rest ∈ spec.items style

/-- A statement that adds a column of the given type to its table. -/
def Adds (style : Style) (column : Target) (type : String) (s : Statement) : Prop :=
  ∃ rest, s.lexemes style = [.word "ALTER TABLE ", .name column.table, .word " ADD COLUMN "] ++
    definitionHead column.column type ++ rest

variable {style : Style} {column : Target} {type : String} {s : Statement}

/-- Of what stands in the definition of a table, only columns begin with a name. -/
theorem creates_iff : s.Creates style column type ↔ ∃ spec, s = .createTable spec ∧ spec.name = column.table ∧
    ∃ c ∈ spec.columns, c.name = column.column ∧ style.typeText c.type = type := by
  constructor
  · rintro ⟨spec, rest, rfl, hname, hitem⟩
    refine ⟨spec, rfl, hname, ?_⟩
    rcases List.mem_append.mp hitem with hitem | hcheck
    · rcases List.mem_append.mp hitem with hcolumn | hkey
      · obtain ⟨c, hc, hlexemes⟩ := List.mem_map.mp hcolumn
        exact ⟨c, hc, ColumnSpec.lexemes_eq_iff.mp ⟨rest, hlexemes⟩⟩
      · obtain ⟨key, -, hlexemes⟩ := List.mem_map.mp hkey
        cases hlexemes
    · obtain ⟨check, -, hlexemes⟩ := List.mem_map.mp hcheck
      cases hlexemes
  · rintro ⟨spec, rfl, hname, c, hc, hcolumn⟩
    obtain ⟨rest, hlexemes⟩ := ColumnSpec.lexemes_eq_iff.mpr hcolumn
    refine ⟨spec, rest, rfl, hname, ?_⟩
    rw [← hlexemes]
    exact List.mem_append_left _ (List.mem_append_left _ (List.mem_map_of_mem hc))

theorem adds_iff : s.Adds style column type ↔
    ∃ c, s = .addColumn column.table c ∧ c.name = column.column ∧ style.typeText c.type = type := by
  constructor
  · rintro ⟨rest, h⟩
    cases s with
    | addColumn table c =>
      obtain ⟨htable, hlexemes⟩ : table = column.table ∧
          c.lexemes style = definitionHead column.column type ++ rest := by
        simpa [lexemes] using h
      exact ⟨c, by rw [htable], ColumnSpec.lexemes_eq_iff.mp ⟨rest, hlexemes⟩⟩
    | _ => simp [lexemes] at h
  · rintro ⟨c, rfl, hcolumn⟩
    obtain ⟨rest, hlexemes⟩ := ColumnSpec.lexemes_eq_iff.mpr hcolumn
    exact ⟨rest, by rw [lexemes, hlexemes, List.append_assoc]⟩

end Statement

/-! ### Definitions in a script -/

variable {d : Dialect} {tables : List ResolvedTable}

theorem createTable_mem_createStatements_iff {spec spec' : TableSpec} :
    .createTable spec ∈ createStatements d spec' ↔ spec = spec' := by
  constructor
  · intro h
    rcases Catalog.cases_of_mem_createStatements h with heq | ⟨_, _, heq⟩ <;> cases heq
    rfl
  · rintro rfl
    exact List.mem_cons_self

theorem addColumn_not_mem_createStatements {spec : TableSpec} {table : String} {c : ColumnSpec} :
    .addColumn table c ∉ createStatements d spec := by
  intro h
  rcases Catalog.cases_of_mem_createStatements h with heq | ⟨_, _, heq⟩ <;> cases heq

theorem createTable_mem_statementsFor_iff {spec : TableSpec} :
    .createTable spec ∈ statementsFor d tables ↔ ∃ t ∈ tables, spec = tableSpec t := by
  have hkeys : ∀ t k, .createTable spec ∉ keyStatements t k := by
    intro t k
    cases hmany : k.oneToMany <;> simp [keyStatements, hmany]
  simp [statementsFor, createTable_mem_createStatements_iff, hkeys]

theorem addColumn_mem_statementsFor_iff {table : String} {c : ColumnSpec} :
    .addColumn table c ∈ statementsFor d tables ↔
      ∃ t ∈ tables, ∃ k ∈ t.foreignKeys, table = t.name ∧ c = foreignKeySpec t k := by
  have hkeys : ∀ t k, .addColumn table c ∈ keyStatements t k ↔ table = t.name ∧ c = foreignKeySpec t k := by
    intro t k
    cases hmany : k.oneToMany <;> simp [keyStatements, hmany]
  simp [statementsFor, addColumn_not_mem_createStatements, hkeys]

variable {style : Style} {column : Target} {type : String}

/-- A script creates the own columns of its tables. -/
theorem exists_creates_iff : (∃ s ∈ statementsFor d tables, s.Creates style column type) ↔
    ∃ t ∈ tables, t.name = column.table ∧ ∃ c ∈ t.columns, c.name = column.column ∧ style.typeText c.type = type := by
  simp only [Statement.creates_iff]
  constructor
  · rintro ⟨_, hs, spec, rfl, hname, c, hc, hcolumn⟩
    obtain ⟨t, ht, rfl⟩ := createTable_mem_statementsFor_iff.mp hs
    obtain ⟨own, hown, rfl⟩ := List.mem_map.mp hc
    exact ⟨t, ht, hname, own, hown, hcolumn⟩
  · rintro ⟨t, ht, hname, c, hc, hcolumn⟩
    exact ⟨_, createTable_mem_statementsFor_iff.mpr ⟨t, ht, rfl⟩, tableSpec t, rfl, hname, columnSpec t c,
      List.mem_map_of_mem hc, hcolumn⟩

/-- A script adds the columns of the foreign keys of its tables. -/
theorem exists_adds_iff : (∃ s ∈ statementsFor d tables, s.Adds style column type) ↔
    ∃ t ∈ tables, t.name = column.table ∧ ∃ k ∈ t.foreignKeys, k.name = column.column ∧
      style.typeText k.type = type := by
  simp only [Statement.adds_iff]
  constructor
  · rintro ⟨_, hs, c, rfl, hcolumn⟩
    obtain ⟨t, ht, k, hk, hname, rfl⟩ := addColumn_mem_statementsFor_iff.mp hs
    exact ⟨t, ht, hname.symm, k, hk, hcolumn⟩
  · rintro ⟨t, ht, hname, k, hk, hcolumn⟩
    exact ⟨_, addColumn_mem_statementsFor_iff.mpr ⟨t, ht, k, hk, hname.symm, rfl⟩, _, rfl, hcolumn⟩

end Sql

open Flat (ResolvedTable)

end ShapeTables
