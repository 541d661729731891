import ShapeTables.Proofs.Rendering

/-! What a script does to a database. A catalog holds the tables of a database; a statement changes it, or fails
when it defines what is there already or is about what is not there. The script for tables of different names,
run on an empty catalog, leaves these tables and nothing else: it creates each of them with its own columns, and
then adds the foreign keys one after another, each to its table, while the other tables stay as they are. -/
namespace ShapeTables.Sql

open Flat (ForeignKey ResolvedTable Target)
open Shape (Constant)

/-! ### Catalogs -/

structure Catalog.Column where
  name : String
  type : String
  notNull : Bool
  default : Option Constant
  comment : Option String
deriving DecidableEq, Repr

structure Catalog.Table where
  name : String
  columns : List Catalog.Column
  /-- The names of the columns that the table was not created with. -/
  added : List String
  primaryKey : Option String
  checks : List Check
  foreignKeys : List (String × Target)
  uniques : List String
deriving DecidableEq, Repr

abbrev Catalog := List Catalog.Table

namespace Catalog

/-- The column that a definition makes. Only in MySQL a comment is part of the definition. -/
def Column.define (style : Style) (c : ColumnSpec) : Column where
  name := c.name
  type := style.typeText c.type
  notNull := c.notNull
  default := c.default
  comment := match style.dialect with
    | .mysql => c.comment
    | .postgresql => none

namespace Table

def columnNames (t : Table) : List String := t.columns.map (·.name)

def withColumns (t : Table) (columns : List Column) : Table := { t with columns }

/-- The table that a definition makes, if its columns differ and its key and checks are about them. -/
def define? (style : Style) (spec : TableSpec) : Option Table :=
  let t : Table := ⟨spec.name, spec.columns.map (.define style), [], spec.primaryKey, spec.checks, [], []⟩
  if t.columnNames.Nodup ∧ (∀ key ∈ t.primaryKey, key ∈ t.columnNames) ∧ ∀ c ∈ t.checks, c.column ∈ t.columnNames
  then some t else none

def comment? (t : Table) (column text : String) : Option Table :=
  if column ∈ t.columnNames then
    some (t.withColumns (t.columns.map fun c => if c.name = column then { c with comment := some text } else c))
  else none

def addColumn? (t : Table) (c : Column) : Option Table :=
  if c.name ∈ t.columnNames then none
  else some { t with columns := t.columns ++ [c], added := t.added ++ [c.name] }

/-- The table with a foreign key on a column that has been added to it. -/
def addForeignKey? (t : Table) (column : String) (target : Target) : Option Table :=
  if column ∈ t.added then some { t with foreignKeys := t.foreignKeys ++ [(column, target)] } else none

/-- The table with a column that has been added to it made unique. -/
def addUnique? (t : Table) (column : String) : Option Table :=
  if column ∈ t.added then some { t with uniques := t.uniques ++ [column] } else none

end Table

def tableNames (catalog : Catalog) : List String := catalog.map (·.name)

/-- The catalog with its table of the given name changed, if there is one and it can be changed. -/
def alter (name : String) (change : Table → Option Table) : Catalog → Option Catalog
  | [] => none
  | t :: rest => if t.name = name then (change t).map (· :: rest) else (alter name change rest).map (t :: ·)

/-- What a statement makes of a catalog, unless it fails. -/
def exec (style : Style) (catalog : Catalog) : Statement → Option Catalog
  | .createTable spec =>
    if spec.name ∈ catalog.tableNames then none else (Table.define? style spec).map (catalog ++ [·])
  | .commentOn table column text => catalog.alter table (·.comment? column text)
  | .addColumn table column => catalog.alter table (·.addColumn? (.define style column))
  | .addForeignKey table column target =>
    if target.table ∈ catalog.tableNames then catalog.alter table (·.addForeignKey? column target) else none
  | .addUnique table column => catalog.alter table (·.addUnique? column)

/-- What statements make of a catalog one after another, unless one of them fails. -/
def run (style : Style) (catalog : Catalog) (statements : List Statement) : Option Catalog :=
  statements.foldlM (exec style) catalog

/-! ### Resolved tables in a catalog -/

/-- A comment, unless it is empty. -/
def written? (comment : Option String) : Option String := comment.filter (· ≠ "")

/-- The column that a column of a table stands for. In PostgreSQL it has no empty comment. -/
def ownColumn (style : Style) (t : Flat.Table) (c : Flat.Column) : Column where
  name := c.name
  type := style.typeText c.type
  notNull := t.isRequired c.name || t.primaryKey == some c.name
  default := c.default
  comment := match style.dialect with
    | .mysql => c.description
    | .postgresql => written? c.description

/-- The column that a foreign key of a table stands for. -/
def keyColumn (style : Style) (t : Flat.Table) (k : ForeignKey) : Column where
  name := k.name
  type := style.typeText k.type
  notNull := t.isRequired k.name || t.primaryKey == some k.name
  default := none
  comment := none

/-- The table that a resolved table stands for: its columns and after them its foreign keys, and a check for each
column with allowed values. The foreign keys that are not one-to-many are unique. A foreign key leads to the target
that its label is taken for. -/
def tableOf (style : Style) (t : ResolvedTable) : Table where
  name := t.name
  columns := t.columns.map (ownColumn style t.toTable) ++ t.foreignKeys.map (keyColumn style t.toTable)
  added := t.foreignKeys.map (·.name)
  primaryKey := t.primaryKey
  checks := (t.columns.filter fun c => c.enum.getD [] ≠ []).map fun c => ⟨c.name, c.enum.getD []⟩
  foreignKeys := t.foreignKeys.map fun k => (k.name, labelled (label k.target))
  uniques := (t.foreignKeys.filter fun k => !k.oneToMany).map (·.name)

/-! ### Steps -/

variable {style : Style} {catalog before after : Catalog} {r : Table} {t : ResolvedTable}

theorem tableNames_append (before after : Catalog) :
    (before ++ after).tableNames = before.tableNames ++ after.tableNames :=
  List.map_append

@[simp] theorem run_nil : run style catalog [] = some catalog := rfl

@[simp] theorem run_cons {s : Statement} {rest : List Statement} :
    run style catalog (s :: rest) = (exec style catalog s).bind (run style · rest) := rfl

theorem run_append {first second : List Statement} :
    run style catalog (first ++ second) = (run style catalog first).bind (run style · second) :=
  List.foldlM_append ..

/-- The first table of a name is the one that is changed. -/
theorem alter_append {name : String} {change : Table → Option Table} (hbefore : name ∉ before.tableNames)
    (hname : r.name = name) : alter name change (before ++ r :: after) = (change r).map (before ++ · :: after) := by
  induction before with
  | nil => simp [alter, hname]
  | cons first rest ih =>
    simp only [tableNames, List.map_cons, List.mem_cons, not_or] at hbefore
    rw [List.cons_append, alter, if_neg (Ne.symm hbefore.1), ih hbefore.2, Option.map_map]
    rfl

section Steps

variable {name column : String}

theorem exec_addColumn {c : ColumnSpec} (hbefore : name ∉ before.tableNames) (hname : r.name = name)
    (hnew : c.name ∉ r.columnNames) : exec style (before ++ r :: after) (.addColumn name c) =
      some (before ++ { r with columns := r.columns ++ [.define style c], added := r.added ++ [c.name] } :: after) := by
  have hnew' : (Column.define style c).name ∉ r.columnNames := hnew
  rw [exec, alter_append hbefore hname, Table.addColumn?, if_neg hnew', Option.map_some]
  rfl

theorem exec_addForeignKey {target : Target} (hbefore : name ∉ before.tableNames) (hname : r.name = name)
    (hadded : column ∈ r.added) (htarget : target.table ∈ (before ++ r :: after).tableNames) :
    exec style (before ++ r :: after) (.addForeignKey name column target) =
      some (before ++ { r with foreignKeys := r.foreignKeys ++ [(column, target)] } :: after) := by
  rw [exec, if_pos htarget, alter_append hbefore hname, Table.addForeignKey?, if_pos hadded, Option.map_some]

theorem exec_addUnique (hbefore : name ∉ before.tableNames) (hname : r.name = name) (hadded : column ∈ r.added) :
    exec style (before ++ r :: after) (.addUnique name column) =
      some (before ++ { r with uniques := r.uniques ++ [column] } :: after) := by
  rw [exec, alter_append hbefore hname, Table.addUnique?, if_pos hadded, Option.map_some]

end Steps

/-! ### Creating a table -/

/-- The column that a definition makes once the comment on it has been added. -/
def Column.commented (style : Style) (c : ColumnSpec) : Column :=
  { Column.define style c with comment := written? c.comment }

def commentStatement? (table : String) (c : ColumnSpec) : Option Statement :=
  (written? c.comment).map (.commentOn table c.name ·)

theorem createStatements_postgresql (spec : TableSpec) : createStatements .postgresql spec =
    .createTable spec :: spec.columns.filterMap (commentStatement? spec.name) := by
  rw [createStatements]
  congr 2
  funext c
  unfold commentStatement? written?
  split
  · next h => rw [h]; rfl
  · next h => rw [h]; rfl
  · next text hne h => rw [h, Option.filter_some_pos (by simpa using hne)]; rfl

theorem cases_of_mem_createStatements {d : Dialect} {spec : TableSpec} {s : Statement} (h : s ∈ createStatements d spec) :
    s = .createTable spec ∨ ∃ column text, s = .commentOn spec.name column text := by
  cases d with
  | mysql => exact .inl (List.mem_singleton.mp h)
  | postgresql =>
    rw [createStatements_postgresql] at h
    refine (List.mem_cons.mp h).imp_right fun hcomment => ?_
    obtain ⟨c, -, hc⟩ := List.mem_filterMap.mp hcomment
    obtain ⟨text, -, rfl⟩ := Option.map_eq_some_iff.mp hc
    exact ⟨c.name, text, rfl⟩

/-- What comments do not have is found in the statement that creates the table, or not at all. -/
theorem filterMap_createStatements {α : Type} {f : Statement → Option α}
    (hf : ∀ table column text, f (.commentOn table column text) = none) (d : Dialect) (spec : TableSpec) :
    (createStatements d spec).filterMap f = (f (.createTable spec)).toList := by
  have hhead : ∀ rest : List Statement, rest.filterMap f = [] →
      (.createTable spec :: rest).filterMap f = (f (.createTable spec)).toList := by
    intro rest hrest
    rw [List.filterMap_cons, hrest]
    cases f (.createTable spec) <;> rfl
  cases d with
  | mysql => exact hhead [] rfl
  | postgresql =>
    rw [createStatements_postgresql]
    refine hhead _ ?_
    rw [List.filterMap_filterMap, List.filterMap_eq_nil_iff]
    intro c _
    cases hcomment : written? c.comment <;> simp [commentStatement?, hcomment, hf]

/-- A comment is added to the one column of its name, here of the last table of a catalog. -/
theorem exec_commentOn {done rest : List Column} {c : Column} {text : String} (hfresh : r.name ∉ before.tableNames)
    (hdone : c.name ∉ done.map (·.name)) (hrest : c.name ∉ rest.map (·.name)) :
    exec style (before ++ [r.withColumns (done ++ c :: rest)]) (.commentOn r.name c.name text) =
      some (before ++ [r.withColumns (done ++ { c with comment := some text } :: rest)]) := by
  have hsame : ∀ columns : List Column, c.name ∉ columns.map (·.name) →
      columns.map (fun c' => if c'.name = c.name then { c' with comment := some text } else c') = columns := by
    intro columns hcolumns
    refine (List.map_congr_left fun c' hc' => if_neg fun heq => hcolumns ?_).trans (List.map_id columns)
    exact List.mem_map.mpr ⟨c', hc', heq⟩
  calc exec style (before ++ [r.withColumns (done ++ c :: rest)]) (.commentOn r.name c.name text)
      = ((r.withColumns (done ++ c :: rest)).comment? c.name text).map (before ++ [·]) := alter_append hfresh rfl
    _ = some (before ++ [r.withColumns (done ++ { c with comment := some text } :: rest)]) := by
      simp [Table.comment?, Table.columnNames, Table.withColumns, hsame _ hdone, hsame _ hrest]

/-- The comments on the columns of the last table of a catalog are added to one column after another. -/
theorem run_comments (hdialect : style.dialect = .postgresql) (hfresh : r.name ∉ before.tableNames)
    {done : List Column} {specs : List ColumnSpec}
    (hnodup : (done.map (·.name) ++ specs.map (·.name)).Nodup) :
    run style (before ++ [r.withColumns (done ++ specs.map (.define style))])
        (specs.filterMap (commentStatement? r.name)) =
      some (before ++ [r.withColumns (done ++ specs.map (.commented style))]) := by
  induction specs generalizing done with
  | nil => rfl
  | cons c rest ih =>
    have hnext : ((done ++ [Column.commented style c]).map (·.name) ++ rest.map (·.name)).Nodup := by
      simpa [Column.commented, Column.define] using hnodup
    have ih := ih hnext
    rw [← List.append_cons] at ih
    rw [List.filterMap_cons, List.map_cons, List.map_cons, List.append_cons _ (Column.commented style c), ← ih,
      commentStatement?]
    cases hcomment : written? c.comment with
    | none =>
      have hsame : Column.commented style c = Column.define style c := by
        rw [Column.commented, hcomment, Column.define, hdialect]
      rw [hsame]
      rfl
    | some text =>
      obtain ⟨hname, -⟩ := List.nodup_cons.mp (List.nodup_middle.mp hnodup)
      rw [List.mem_append, not_or] at hname
      have hrest : c.name ∉ (rest.map (Column.define style)).map (·.name) := by rw [List.map_map]; exact hname.2
      have hstep : exec style (before ++ [r.withColumns (done ++ Column.define style c :: rest.map (.define style))])
          (.commentOn r.name c.name text) =
            some (before ++ [r.withColumns (done ++ Column.commented style c :: rest.map (.define style))]) := by
        rw [Column.commented, hcomment]
        exact exec_commentOn (c := .define style c) hfresh hname.1 hrest
      rw [Option.map_some, run_cons, hstep, Option.bind_some]

/-- The resolved table with some of its foreign keys only. -/
def withKeys (t : ResolvedTable) (keys : List ForeignKey) : ResolvedTable := { t with foreignKeys := keys }

/-- The table that a resolved table stands for before its foreign keys are added. -/
def bareTableOf (style : Style) (t : ResolvedTable) : Table := tableOf style (withKeys t [])

@[simp] theorem tableNames_tableOf (style : Style) (tables : List ResolvedTable) :
    tableNames (tables.map (tableOf style)) = tables.map (·.name) := List.map_map

@[simp] theorem tableNames_bareTableOf (style : Style) (tables : List ResolvedTable) :
    tableNames (tables.map (bareTableOf style)) = tables.map (·.name) := List.map_map

theorem checks_eq (t : ResolvedTable) : t.columns.filterMap checkOf? =
    (t.columns.filter fun c => c.enum.getD [] ≠ []).map fun c => ⟨c.name, c.enum.getD []⟩ := by
  induction t.columns with
  | nil => rfl
  | cons c rest ih =>
    rw [List.filterMap_cons, List.filter_cons, ih, checkOf?]
    rcases henum : c.enum with _ | _ | ⟨value, values⟩ <;> simp [henum]

theorem define?_tableSpec (hdefinable : Definable t) (hkey : keyOf? t = t.primaryKey) :
    Table.define? style (tableSpec t) =
      some ((bareTableOf style t).withColumns ((t.columns.map (columnSpec t)).map (.define style))) := by
  have hnames : ((t.columns.map (columnSpec t)).map (Column.define style)).map (·.name) = t.columns.map (·.name) := by
    rw [List.map_map, List.map_map]
    rfl
  have hchecks : ∀ c ∈ t.columns.filterMap checkOf?, c.column ∈ t.columns.map (·.name) := by
    rw [checks_eq]
    simp only [List.mem_map, List.mem_filter]
    rintro _ ⟨c, ⟨hc, -⟩, rfl⟩
    exact ⟨c, hc, rfl⟩
  have hkeyed : ∀ key ∈ keyOf? t, key ∈ t.columns.map (·.name) := fun key h => hdefinable.keyed key h
  rw [Table.define?]
  simp only [tableSpec, Table.columnNames, hnames]
  rw [if_pos ⟨hdefinable.nodup, hkeyed, hchecks⟩, checks_eq, hkey]
  rfl

/-- A table that can be defined is created with its own columns. -/
theorem run_createStatements (hdefinable : Definable t) (hkey : keyOf? t = t.primaryKey)
    (hfresh : t.name ∉ catalog.tableNames) :
    run style catalog (createStatements style.dialect (tableSpec t)) = some (catalog ++ [bareTableOf style t]) := by
  have hexec : exec style catalog (.createTable (tableSpec t)) =
      some (catalog ++ [(bareTableOf style t).withColumns ((t.columns.map (columnSpec t)).map (.define style))]) := by
    have hname : (tableSpec t).name ∉ catalog.tableNames := hfresh
    rw [exec, if_neg hname, define?_tableSpec hdefinable hkey, Option.map_some]
  have hown : ∀ column : ColumnSpec → Column, (∀ c, ownColumn style t.toTable c = column (columnSpec t c)) →
      (bareTableOf style t).withColumns ((t.columns.map (columnSpec t)).map column) = bareTableOf style t := by
    intro column hcolumn
    have hcolumns : (bareTableOf style t).columns = (t.columns.map (columnSpec t)).map column := by
      rw [List.map_map, ← List.append_nil (t.columns.map _)]
      exact congrArg (· ++ []) (List.map_congr_left fun c _ => hcolumn c)
    rw [← hcolumns]
    rfl
  cases hdialect : style.dialect with
  | mysql =>
    have hdefined : ∀ c, ownColumn style t.toTable c = .define style (columnSpec t c) := fun c => by
      simp only [ownColumn, Column.define, columnSpec, hdialect, hkey]
    rw [createStatements, run_cons, hexec, hown _ hdefined]
    rfl
  | postgresql =>
    have hcommented : ∀ c, ownColumn style t.toTable c = .commented style (columnSpec t c) := fun c => by
      simp only [ownColumn, Column.commented, Column.define, columnSpec, hdialect, hkey]
    have hnodup : (([] : List Column).map (·.name) ++ (t.columns.map (columnSpec t)).map (·.name)).Nodup := by
      rw [List.map_map]
      exact hdefinable.nodup
    rw [createStatements_postgresql, run_cons, hexec, Option.bind_some]
    refine (run_comments hdialect hfresh hnodup).trans ?_
    rw [List.nil_append, hown _ hcommented]

/-! ### Adding foreign keys -/

theorem tableOf_withKeys_concat (keys : List ForeignKey) (k : ForeignKey) :
    tableOf style (withKeys t (keys ++ [k])) =
      { tableOf style (withKeys t keys) with
        columns := (tableOf style (withKeys t keys)).columns ++ [keyColumn style t.toTable k]
        added := (tableOf style (withKeys t keys)).added ++ [k.name]
        foreignKeys := (tableOf style (withKeys t keys)).foreignKeys ++ [(k.name, labelled (label k.target))]
        uniques := (tableOf style (withKeys t keys)).uniques ++ if k.oneToMany then [] else [k.name] } := by
  cases hmany : k.oneToMany <;> simp [tableOf, withKeys, hmany]

/-- The statements for a foreign key add it to its table. -/
theorem run_keyStatements {keys : List ForeignKey} {k : ForeignKey} (hfresh : t.name ∉ before.tableNames)
    (hname : k.name ∉ t.columns.map (·.name) ++ keys.map (·.name)) (hkey : t.primaryKey ≠ some k.name)
    (htarget : (labelled (label k.target)).table ∈ (before ++ tableOf style t :: after).tableNames) :
    run style (before ++ tableOf style (withKeys t keys) :: after) (keyStatements t k) =
      some (before ++ tableOf style (withKeys t (keys ++ [k])) :: after) := by
  have hcolumn : Column.define style (foreignKeySpec t k) = keyColumn style t.toTable k := by
    have hother : (t.primaryKey == some k.name) = false := by simpa using hkey
    simp only [Column.define, foreignKeySpec, keyColumn, hother, Bool.or_false]
    split <;> rfl
  have hnew : (foreignKeySpec t k).name ∉ (tableOf style (withKeys t keys)).columnNames := by
    simpa [Table.columnNames, tableOf, withKeys, ownColumn, keyColumn, foreignKeySpec, Function.comp_def] using hname
  have hadded : k.name ∈ (tableOf style (withKeys t keys)).added ++ [k.name] :=
    List.mem_append_right _ (List.mem_singleton_self _)
  have hnames : ∀ r : Table, r.name = t.name →
      (labelled (label k.target)).table ∈ (before ++ r :: after).tableNames := by
    intro r hr
    simpa [tableNames, tableOf, hr] using htarget
  rw [tableOf_withKeys_concat, keyStatements, List.cons_append, List.cons_append, List.nil_append, run_cons,
    exec_addColumn hfresh rfl hnew, Option.bind_some, run_cons, exec_addForeignKey hfresh rfl hadded (hnames _ rfl),
    Option.bind_some, hcolumn]
  cases k.oneToMany with
  | true => simp [foreignKeySpec]
  | false =>
    rw [if_neg (by decide), run_cons, exec_addUnique hfresh rfl hadded]
    rfl

/-- The foreign keys of a table are added to it one after another. -/
theorem run_keys (done : List ForeignKey) {keys : List ForeignKey} (hfresh : t.name ∉ before.tableNames)
    (hnames : (t.columns.map (·.name) ++ (done ++ keys).map (·.name)).Nodup)
    (hkey : ∀ k ∈ keys, t.primaryKey ≠ some k.name)
    (htargets : ∀ k ∈ keys, (labelled (label k.target)).table ∈ (before ++ tableOf style t :: after).tableNames) :
    run style (before ++ tableOf style (withKeys t done) :: after) (keys.flatMap (keyStatements t)) =
      some (before ++ tableOf style (withKeys t (done ++ keys)) :: after) := by
  induction keys generalizing done with
  | nil => rw [List.append_nil]; rfl
  | cons k rest ih =>
    obtain ⟨hkeyHead, hkeyRest⟩ := List.forall_mem_cons.mp hkey
    obtain ⟨htarget, htargetsRest⟩ := List.forall_mem_cons.mp htargets
    have hnames' : (t.columns.map (·.name) ++ (done ++ [k] ++ rest).map (·.name)).Nodup := by
      rwa [List.append_cons] at hnames
    have hname : k.name ∉ t.columns.map (·.name) ++ done.map (·.name) := by
      simp only [List.map_append, List.map_cons, ← List.append_assoc] at hnames
      have hmiddle := (List.nodup_cons.mp (List.nodup_middle.mp hnames)).1
      exact fun hmem => hmiddle (List.mem_append_left _ hmem)
    rw [List.flatMap_cons, run_append, run_keyStatements hfresh hname hkeyHead htarget, Option.bind_some,
      ih _ hnames' hkeyRest htargetsRest, ← List.append_cons]

/-- Tables to which everything that is about them in a script can be added. -/
structure Addable (tables : List ResolvedTable) (t : ResolvedTable) : Prop where
  names_nodup : (t.columns.map (·.name) ++ t.foreignKeys.map (·.name)).Nodup
  key_not_added : ∀ k ∈ t.foreignKeys, t.primaryKey ≠ some k.name
  targets_mem : ∀ k ∈ t.foreignKeys, (labelled (label k.target)).table ∈ tables.map (·.name)

/-- The foreign keys are added to one table after another. -/
theorem run_foreignKeys (done : List ResolvedTable) {rest : List ResolvedTable}
    (hnodup : ((done ++ rest).map (·.name)).Nodup)
    (haddable : ∀ t ∈ rest, Addable (done ++ rest) t) :
    run style (done.map (tableOf style) ++ rest.map (bareTableOf style))
        (rest.flatMap fun t => t.foreignKeys.flatMap (keyStatements t)) =
      some ((done ++ rest).map (tableOf style)) := by
  induction rest generalizing done with
  | nil => simp
  | cons t rest ih =>
    have ht := haddable t List.mem_cons_self
    have hnames : tableNames (done.map (tableOf style) ++ tableOf style t :: rest.map (bareTableOf style)) =
        (done ++ t :: rest).map (·.name) := by
      rw [tableNames_append, tableNames_tableOf, List.map_append, List.map_cons, ← tableNames_bareTableOf style rest]
      rfl
    have hfresh : t.name ∉ tableNames (done.map (tableOf style)) := by
      rw [tableNames_tableOf]
      rw [List.map_append, List.map_cons] at hnodup
      exact fun hmem => (List.nodup_cons.mp (List.nodup_middle.mp hnodup)).1 (List.mem_append_left _ hmem)
    have htargets : ∀ k ∈ t.foreignKeys, (labelled (label k.target)).table ∈
        tableNames (done.map (tableOf style) ++ tableOf style t :: rest.map (bareTableOf style)) := by
      rw [hnames]
      exact ht.targets_mem
    have hrun : run style (done.map (tableOf style) ++ bareTableOf style t :: rest.map (bareTableOf style))
        (t.foreignKeys.flatMap (keyStatements t)) =
          some (done.map (tableOf style) ++ tableOf style t :: rest.map (bareTableOf style)) :=
      run_keys [] hfresh ht.names_nodup ht.key_not_added htargets
    rw [List.append_cons] at hnodup haddable
    have ih := ih _ hnodup fun t' ht' => haddable t' (List.mem_cons_of_mem _ ht')
    rw [List.map_append, List.map_cons, List.map_nil, ← List.append_cons] at ih
    rw [List.map_cons, List.flatMap_cons, run_append, hrun, Option.bind_some, ih, ← List.append_cons]

/-- The tables are created one after another. -/
theorem run_create {tables : List ResolvedTable} (hnodup : (tables.map (·.name)).Nodup)
    (hfresh : ∀ t ∈ tables, t.name ∉ catalog.tableNames)
    (hdefinable : ∀ t ∈ tables, Definable t ∧ keyOf? t = t.primaryKey) :
    run style catalog (tables.flatMap fun t => createStatements style.dialect (tableSpec t)) =
      some (catalog ++ tables.map (bareTableOf style)) := by
  induction tables generalizing catalog with
  | nil => simp
  | cons t rest ih =>
    obtain ⟨⟨hdefinableHead, hkey⟩, hdefinableRest⟩ := List.forall_mem_cons.mp hdefinable
    obtain ⟨hfreshHead, hfreshRest⟩ := List.forall_mem_cons.mp hfresh
    obtain ⟨hname, hnames⟩ := List.nodup_cons.mp hnodup
    have hfresh' : ∀ t' ∈ rest, t'.name ∉ tableNames (catalog ++ [bareTableOf style t]) := by
      intro t' ht'
      rw [tableNames_append, List.mem_append, not_or]
      refine ⟨hfreshRest t' ht', fun hmem => hname ?_⟩
      exact List.mem_map.mpr ⟨t', ht', List.mem_singleton.mp hmem⟩
    rw [List.flatMap_cons, run_append, run_createStatements hdefinableHead hkey hfreshHead, Option.bind_some,
      ih hnames hfresh' hdefinableRest, List.map_cons, ← List.append_cons]

/-- The statements for tables of different names, run on an empty catalog, leave exactly these tables. -/
theorem run_statementsFor {tables : List ResolvedTable} (hnodup : (tables.map (·.name)).Nodup)
    (hdefinable : ∀ t ∈ tables, Definable t ∧ keyOf? t = t.primaryKey) (haddable : ∀ t ∈ tables, Addable tables t) :
    run style [] (statementsFor style.dialect tables) = some (tables.map (tableOf style)) := by
  have hcreate : run style [] (tables.flatMap fun t => createStatements style.dialect (tableSpec t)) =
      some (tables.map (bareTableOf style)) := run_create hnodup (by simp [tableNames]) hdefinable
  rw [statementsFor, run_append, hcreate, Option.bind_some]
  exact run_foreignKeys [] hnodup haddable

/-- Tables whose names differ and all parts of a script for which can be written are what the script leaves when it
is run on an empty catalog. -/
theorem run_of_script {tables : List ResolvedTable} {statements : List Statement}
    (hnodup : (tables.map (·.name)).Nodup) (hkey : ∀ t ∈ tables, keyOf? t = t.primaryKey)
    (h : script style.dialect tables = .ok statements) : run style [] statements = some (tables.map (tableOf style)) := by
  obtain ⟨hscriptable, rfl⟩ := (script_eq_ok_iff hnodup).mp h
  refine run_statementsFor hnodup (fun t ht => ⟨(hscriptable t ht).definable, hkey t ht⟩) fun t ht => ?_
  have hnames : (t.columns.map (·.name) ++ t.foreignKeys.map (·.name)).Nodup := (hscriptable t ht).nodup
  refine ⟨hnames, fun k hk hname => ?_, fun k hk => ?_⟩
  · -- the key is one of the own columns, and so no foreign key has its name
    have hown := (hscriptable t ht).definable.keyed k.name ((hkey t ht).trans hname)
    exact (List.nodup_append.mp hnames).2.2 _ hown _ (List.mem_map_of_mem hk) rfl
  · obtain ⟨target, htarget, column, -, hlabel⟩ := found_iff_labelled.mp ((hscriptable t ht).found k hk)
    rw [hlabel]
    exact List.mem_map_of_mem htarget

end Catalog

end ShapeTables.Sql

namespace ShapeTables

open Flat (ResolvedTable)
open Sql (Catalog)

/-- People with a chief among them, a mood out of two, and phones. -/
def staff : Value := objectOf
  [("people", .object [("type", .text "object"), ("required", .texts ["name", "chief"]),
    ("properties", .object
      [("id", typed "integer"),
       ("name", .object [("type", .text "string"), ("description", .text "Full name")]),
       ("mood", .object [("type", .text "string"), ("enum", .texts ["calm", "busy"])]),
       ("chief", pointing "#/people/id"),
       ("phones", arrayOf (typed "string"))])])]

theorem generate_staff (style : Sql.Style) :
    ∃ tables, compile staff = .ok tables ∧ ∃ texts, generate style tables = .ok texts :=
  ⟨_, rfl, by cases style with | mk d n => cases d <;> exact ⟨_, rfl⟩⟩

end ShapeTables
