import ShapeTables.Proofs.BackReferences
import ShapeTables.Proofs.Targets

/-! Which columns are unique when a foreign key is added that leads to them. A script makes a column unique by
creating its table with the column as the primary key, or by adding it as the unique column of a foreign key. The
latter cannot be a target, and all tables are created before the first foreign key is added; so the target of a
foreign key is unique by then exactly when it is the primary key of its table. References to the key of the table
around are of this kind. A reference may also lead to any other column of a type that can be a key, and nothing
makes such a column unique. -/
namespace ShapeTables

namespace Sql

open Flat (ForeignKey ResolvedTable Target)

/-- The column that a statement makes unique, if it does. -/
def Statement.unique? : Statement → Option Target
  | .createTable spec => spec.primaryKey.map (⟨spec.name, ·⟩)
  | .addUnique table column => some ⟨table, column⟩
  | .commentOn .. | .addColumn .. | .addForeignKey .. => none

/-- The columns that statements make unique. -/
def uniqueColumns (statements : List Statement) : List Target := statements.filterMap Statement.unique?

variable {d : Dialect} {tables : List ResolvedTable} {target : Target}

@[simp] theorem uniqueColumns_append (ss ts : List Statement) :
    uniqueColumns (ss ++ ts) = uniqueColumns ss ++ uniqueColumns ts :=
  List.filterMap_append

theorem mem_uniqueColumns_flatMap {α : Type} {xs : List α} {f : α → List Statement} :
    target ∈ uniqueColumns (xs.flatMap f) ↔ ∃ x ∈ xs, target ∈ uniqueColumns (f x) := by
  rw [uniqueColumns, List.filterMap_flatMap, List.mem_flatMap]
  rfl

theorem uniqueColumns_createStatements (spec : TableSpec) :
    uniqueColumns (createStatements d spec) = spec.primaryKey.toList.map (⟨spec.name, ·⟩) := by
  rw [uniqueColumns, Catalog.filterMap_createStatements (fun _ _ _ => rfl), Statement.unique?]
  cases spec.primaryKey <;> rfl

/-- A table is created with its key as a unique column. -/
theorem mem_uniqueColumns_createStatements {t : ResolvedTable} :
    target ∈ uniqueColumns (createStatements d (tableSpec t)) ↔
      t.name = target.table ∧ keyOf? t = some target.column := by
  obtain ⟨table, column⟩ := target
  have hname : (tableSpec t).name = t.name := rfl
  have hkey : (tableSpec t).primaryKey = keyOf? t := rfl
  rw [uniqueColumns_createStatements, hname, hkey]
  cases keyOf? t <;> simp [eq_comm, and_comm]

/-- The statements for a foreign key make at most its own column unique. -/
theorem eq_of_mem_uniqueColumns_keyStatements {t : ResolvedTable} {k : ForeignKey}
    (h : target ∈ uniqueColumns (keyStatements t k)) : target = ⟨t.name, k.name⟩ := by
  cases hmany : k.oneToMany with
  | true => simp [keyStatements, hmany, uniqueColumns, List.filterMap_cons, Statement.unique?] at h
  | false => simpa [keyStatements, hmany, uniqueColumns, List.filterMap_cons, Statement.unique?] using h

theorem addForeignKey_not_mem_createStatements {spec : TableSpec} {table column : String} :
    .addForeignKey table column target ∉ createStatements d spec := by
  intro hmem
  have hkey : (table, column, target) ∈ (createStatements d spec).filterMap Statement.foreignKey? :=
    List.mem_filterMap.mpr ⟨_, hmem, rfl⟩
  rw [foreignKey?_createStatements] at hkey
  cases hkey

theorem addForeignKey_mem_keyStatements_iff {t : ResolvedTable} {k : ForeignKey} {table column : String} :
    .addForeignKey table column target ∈ keyStatements t k ↔
      table = t.name ∧ column = k.name ∧ target = labelled (label k.target) := by
  cases hmany : k.oneToMany <;> simp [keyStatements, hmany]

/-- What comes before something that is in the second part of a list contains the first part. -/
theorem exists_of_append_eq_append_cons {α : Type} {xs ys before after : List α} {x : α} (hx : x ∉ xs)
    (h : xs ++ ys = before ++ x :: after) : ∃ middle, before = xs ++ middle ∧ ys = middle ++ x :: after := by
  rcases List.append_eq_append_iff.mp h with ⟨middle, hbefore, hys⟩ | ⟨rest, hxs, hrest⟩
  · exact ⟨middle, hbefore, hys⟩
  · cases rest with
    | nil => exact ⟨[], by simpa using hxs.symm, by simpa using hrest.symm⟩
    | cons y rest =>
      obtain ⟨rfl, -⟩ := List.cons.inj hrest
      exact absurd (hxs ▸ List.mem_append_right _ List.mem_cons_self) hx

/-- Where a script adds a foreign key, all tables have been created, and the statements since then are for foreign
keys. -/
theorem statementsFor_split {before after : List Statement} {table column : String}
    (h : statementsFor d tables = before ++ .addForeignKey table column target :: after) :
    (∃ t ∈ tables, ∃ k ∈ t.foreignKeys, table = t.name ∧ column = k.name ∧ target = labelled (label k.target)) ∧
      ∃ middle, before = (tables.flatMap fun t => createStatements d (tableSpec t)) ++ middle ∧
        middle ⊆ tables.flatMap fun t => t.foreignKeys.flatMap (keyStatements t) := by
  have hcreate : Statement.addForeignKey table column target ∉
      tables.flatMap fun t => createStatements d (tableSpec t) := by
    rw [List.mem_flatMap]
    rintro ⟨t, -, hmem⟩
    exact addForeignKey_not_mem_createStatements hmem
  obtain ⟨middle, hbefore, hkeys⟩ := exists_of_append_eq_append_cons hcreate h
  refine ⟨?_, middle, hbefore, hkeys ▸ List.subset_append_left _ _⟩
  have hmem : Statement.addForeignKey table column target ∈
      tables.flatMap fun t => t.foreignKeys.flatMap (keyStatements t) := by
    rw [hkeys]
    exact List.mem_append_right _ List.mem_cons_self
  simp only [List.mem_flatMap, addForeignKey_mem_keyStatements_iff] at hmem
  exact hmem

/-- A column that is no foreign key of its table is unique, where a foreign key is added, exactly when it is the key
of the table. -/
theorem mem_uniqueColumns_iff {before after : List Statement} {table column : String} {target' : Target}
    (h : statementsFor d tables = before ++ .addForeignKey table column target' :: after)
    (hcolumn : ∀ t ∈ tables, t.name = target.table → target.column ∉ t.foreignKeys.map (·.name)) :
    target ∈ uniqueColumns before ↔ ∃ t ∈ tables, t.name = target.table ∧ keyOf? t = some target.column := by
  obtain ⟨-, middle, rfl, hmiddle⟩ := statementsFor_split h
  have hkeys : target ∉ uniqueColumns middle := by
    intro hmem
    obtain ⟨s, hs, hunique⟩ := List.mem_filterMap.mp hmem
    obtain ⟨t, ht, hs⟩ := List.mem_flatMap.mp (hmiddle hs)
    obtain ⟨k, hk, hs⟩ := List.mem_flatMap.mp hs
    obtain rfl := eq_of_mem_uniqueColumns_keyStatements (List.mem_filterMap.mpr ⟨s, hs, hunique⟩)
    exact hcolumn t ht rfl (List.mem_map_of_mem hk)
  rw [uniqueColumns_append, List.mem_append, or_iff_left hkeys, mem_uniqueColumns_flatMap]
  simp only [mem_uniqueColumns_createStatements]

end Sql

namespace Flat

open Sql (uniqueColumns)

/-- The key of a node as a target. -/
def Node.key (n : Node) : Target := ⟨n.flat.name, n.table.joinKey⟩

/-- Nodes with no slash in the names on the way and in the key, and with no dot in the key. -/
structure Node.Plain (n : Node) : Prop where
  path_plain : ∀ name ∈ n.way.path, '/' ∉ name.toList
  key_plain : '/' ∉ n.table.joinKey.toList
  key_undotted : '.' ∉ n.table.joinKey.toList

/-- Statements that add foreign keys whose targets are unique where they are keys. -/
structure UniqueAtKeys (db : Shape.Database) (tables : List ResolvedTable) (statements : List Sql.Statement) : Prop where
  /-- Each foreign key of a script is one of the tables, and if the column of its target has no dot, this target is
  unique when the foreign key is added exactly when it is the primary key of its table. -/
  added : ∀ before table column target after, statements = before ++ .addForeignKey table column target :: after →
    ∃ t ∈ tables, ∃ k ∈ t.foreignKeys, table = t.name ∧ column = k.name ∧ ('.' ∉ k.target.column.toList →
      target = k.target ∧ (target ∈ uniqueColumns before ↔
        ∃ r ∈ tables, r.name = target.table ∧ r.primaryKey = some target.column))
  /-- The foreign key of a nested table leads to the key of the table around, which is unique by then. -/
  nested : ∀ n ∈ nodes db, n.Plain → ∀ c ∈ n.children, c.way.kept →
    .addForeignKey c.flat.name (n.backReference c).name n.key ∈ statements ∧ ∀ before after,
      statements = before ++ .addForeignKey c.flat.name (n.backReference c).name n.key :: after →
        n.key ∈ uniqueColumns before

variable {d : Sql.Dialect} {tables : List ResolvedTable}

/-- A target of a foreign key is unique, where a foreign key is added, exactly when it is a primary key. -/
theorem Sound.mem_uniqueColumns_iff (h : Sound tables) (hkey : ∀ t ∈ tables, Sql.keyOf? t = t.primaryKey)
    {t : ResolvedTable} (ht : t ∈ tables) {k : ForeignKey} (hk : k ∈ t.foreignKeys)
    {before after : List Sql.Statement} {table column : String} {target : Target}
    (hsplit : Sql.statementsFor d tables = before ++ .addForeignKey table column target :: after) :
    k.target ∈ uniqueColumns before ↔
      ∃ r ∈ tables, r.name = k.target.table ∧ r.primaryKey = some k.target.column := by
  have hcolumn : ∀ r ∈ tables, r.name = k.target.table → k.target.column ∉ r.foreignKeys.map (·.name) := by
    intro r hr hname
    obtain ⟨target, htarget, htargetName, hreference, -⟩ := h.targets_mem t ht k hk
    obtain rfl : r = target := List.inj_on_of_nodup_map h.names_nodup hr htarget (hname.trans htargetName.symm)
    rwa [h.names_foreignKeys r hr]
  rw [Sql.mem_uniqueColumns_iff hsplit hcolumn]
  refine exists_congr fun r => and_congr_right fun hr => ?_
  rw [hkey r hr]

end Flat

open Flat (ResolvedTable nodes flatten)

/-- In a script for a compiled document, the foreign key of a table that is nested in a plain one leads to the key of
the table around. -/
theorem addForeignKey_mem_of_plain {document : Value} {db : Shape.Database} {tables : List ResolvedTable}
    (hdb : validate document = .ok db) (hresolve : Flat.resolve (flatten db) = .ok tables)
    (hrenderable : Renderable tables) {n c : Flat.Node} (hn : n ∈ nodes db) (hplain : n.Plain) (hc : c ∈ n.children)
    (hkept : c.way.kept) : ∃ t ∈ tables, t.toTable = c.flat ∧ ∃ k ∈ t.foreignKeys,
      k.name = (n.backReference c).name ∧ k.target = n.key ∧
        ∃ r ∈ tables, r.name = n.key.table ∧ r.primaryKey = some n.key.column := by
  obtain ⟨-, hread, hproblems⟩ := validate_eq_ok_iff.mp hdb
  obtain ⟨hnames, -, htables⟩ := Flat.resolve_eq_ok_iff.mp hresolve
  have hcmem := Flat.children_subset_nodes hn hc
  have hnflat := Flat.flat_mem_flatten hn (Flat.Node.kept_of_mem_children hc hkept)
  have hcflat := Flat.flat_mem_flatten hcmem hkept
  have hregular := Flat.regular_of_problems_eq_nil hproblems n hn
  have hdistinct := Flat.distinct_of_read hread
  have hresolved : Flat.resolveTable (flatten db) n.flat ∈ tables := htables ▸ List.mem_map_of_mem hnflat
  have hkey : n.flat.primaryKey = some n.table.joinKey := hregular.effectiveKey?_eq hc
  -- no reference stands in the place of the key, or there would be no script
  have htraceable : n.Traceable := by
    refine ⟨hplain.path_plain, hplain.key_plain, fun back hback hname => ?_⟩
    have hreference := Flat.Node.mem_references_of_back (hdistinct n hn) hback
    exact hrenderable.keyed _ hresolved _ hkey (List.mem_map.mpr ⟨_, hreference, hname⟩)
  obtain ⟨k, hk, htable, hcolumn⟩ := htraceable.exists_leadsTo hregular (hdistinct n hn) hc hnflat hnames
  obtain ⟨t, ht, hflat, hkmem, hname⟩ :=
    (Flat.backKey_iff hresolve (hdistinct c hcmem) hc hcflat).mpr hk
  have htarget : k.target = n.key := by
    rw [Flat.Node.key, ← htable, Option.some.inj (hkey.symm.trans hcolumn)]
  exact ⟨t, ht, hflat, k, hkmem, hname, htarget, _, hresolved, rfl, hkey⟩

/-- In the script for a compiled document, a foreign key leads to a column that the statements before it have made
unique exactly when this column is the primary key of its table, as it is for the foreign keys of nested tables. -/
theorem unique_at_keys {document : Value} {tables : List ResolvedTable} {style : Sql.Style} {texts : List String}
    (h : compile document = .ok tables) (hgenerate : generate style tables = .ok texts) :
    ∃ db statements, validate document = .ok db ∧ Sql.script style.dialect tables = .ok statements ∧
      texts = statements.map (·.render style) ∧ Flat.UniqueAtKeys db tables statements := by
  obtain ⟨db, hdb, hresolve⟩ := compile_eq_ok_iff.mp h
  obtain ⟨statements, hscript, htexts⟩ := generate_eq_ok_iff.mp hgenerate
  have hsound := Flat.sound_of_resolve hresolve (Flat.flat_names_nodup hdb)
  have hrenderable := (renderable_iff h style).mp ⟨_, hgenerate⟩
  obtain ⟨-, rfl⟩ := (Sql.script_eq_ok_iff hsound.names_nodup).mp hscript
  refine ⟨db, _, hdb, hscript, htexts, ?_, ?_⟩
  · intro before table column target after hsplit
    obtain ⟨⟨t, ht, k, hk, htable, hcolumn, htarget⟩, -⟩ := Sql.statementsFor_split hsplit
    refine ⟨t, ht, k, hk, htable, hcolumn, fun hdot => ?_⟩
    rw [Sql.labelled_label hdot] at htarget
    subst htarget
    exact ⟨rfl, hsound.mem_uniqueColumns_iff (keyOf?_eq_of_compile h) ht hk hsplit⟩
  · intro n hn hplain c hc hkept
    obtain ⟨t, ht, hflat, k, hk, hname, htarget, hkey⟩ :=
      addForeignKey_mem_of_plain hdb hresolve hrenderable hn hplain hc hkept
    have hlabel : Sql.labelled (Sql.label n.key) = n.key := Sql.labelled_label hplain.key_undotted
    constructor
    · refine List.mem_append_right _ (List.mem_flatMap.mpr ⟨t, ht, List.mem_flatMap.mpr ⟨k, hk, ?_⟩⟩)
      exact Sql.addForeignKey_mem_keyStatements_iff.mpr ⟨congrArg Flat.Table.name hflat.symm, hname.symm, htarget ▸ hlabel.symm⟩
    · intro before after hsplit
      rw [← htarget] at hkey ⊢
      exact (hsound.mem_uniqueColumns_iff (keyOf?_eq_of_compile h) ht hk hsplit).mpr hkey

theorem unique_at_keys_staff : ∃ tables texts, compile staff = .ok tables ∧
    generate ⟨.postgresql, 255⟩ tables = .ok texts ∧ ∃ db statements, validate staff = .ok db ∧
      Sql.script .postgresql tables = .ok statements ∧ texts = statements.map (·.render ⟨.postgresql, 255⟩) ∧
        Flat.UniqueAtKeys db tables statements := by
  obtain ⟨tables, hcompile, texts, hgenerate⟩ := generate_staff ⟨.postgresql, 255⟩
  exact ⟨tables, texts, hcompile, hgenerate, unique_at_keys hcompile hgenerate⟩

/-- The posts of a blog refer to the names of users, which are not unique. -/
theorem blog_author_not_unique : ∃ texts statements before after,
    compile blog = .ok Flat.blogTables ∧ generate ⟨.postgresql, 255⟩ Flat.blogTables = .ok texts ∧
      Sql.script .postgresql Flat.blogTables = .ok statements ∧ texts = statements.map (·.render ⟨.postgresql, 255⟩) ∧
      statements = before ++ .addForeignKey "posts" "author" ⟨"users", "name"⟩ :: after ∧
      ⟨"users", "name"⟩ ∉ Sql.uniqueColumns before :=
  ⟨_, _, [_, _, _, _, _, _], _, rfl, rfl, rfl, rfl, rfl, by decide⟩

end ShapeTables
