import ShapeTables.Proofs.Keys
import ShapeTables.Proofs.Resolution
import ShapeTables.Proofs.Script
import ShapeTables.Request

/-! Scripts for compiled tables. Compiling makes sure of most of what a script needs: tables and columns that can
be told apart, and targets that are there. What it leaves open is said by `Renderable`: a name can be empty, a
back reference can take the place of a key, an integer can be too long to be written, and a dot in the name of a
column can mislead the foreign keys that point at it. -/
namespace ShapeTables

open Flat (Node ResolvedTable)
open Sql (Found Writable keyOf? referable)

/-- Tables that have what a script needs beyond what compiling makes sure of. -/
structure Renderable (tables : List ResolvedTable) : Prop where
  named : ∀ t ∈ tables, "" ∉ t.columns.map (·.name) ++ t.references.map (·.name)
  /-- No reference stands in the place of a key. -/
  keyed : ∀ t ∈ tables, ∀ key, t.primaryKey = some key → key ∉ t.references.map (·.name)
  writable : ∀ t ∈ tables, Writable t
  /-- The label of a column with a dot, which is cut at the last dot, is taken for a column that is there. -/
  found : ∀ t ∈ tables, ∀ k ∈ t.foreignKeys, '.' ∈ k.target.column.toList → Found tables k

namespace Flat

/-- Only a back reference is added to the properties of a node. -/
theorem Node.mem_of_mem_properties {n : Node} {name : String} {c : Shape.ValueColumn}
    (h : (name, .value c) ∈ n.properties) : (name, .value c) ∈ n.table.properties := by
  unfold Node.properties withBack at h
  split at h
  · rw [putBack_eq_putNamed] at h
    exact (Shape.mem_putNamed h).resolve_left (by simp)
  · exact h

/-- The key that a script looks for is the key of the node. -/
theorem Node.keyOf?_eq (n : Node) (tables : List Table) :
    keyOf? (resolveTable tables n.flat) = n.table.effectiveKey? := by
  have hprimary : (resolveTable tables n.flat).primaryKey = n.table.effectiveKey? := rfl
  cases hkey : n.table.effectiveKey? with
  | some key =>
    have hne : key ≠ "" := fun h => Shape.TableOf.effectiveKey?_ne_some_empty (h ▸ hkey)
    unfold keyOf?
    rw [hprimary, hkey]
    split
    · next h => exact absurd (Option.some.inj h) hne
    · next h => cases h
    · next h => exact h.symm
  | none =>
    have hid : "id" ∉ n.flat.columns.map (·.name) := by
      intro hmem
      obtain ⟨_, hcolumn, hname⟩ := List.mem_map.mp hmem
      obtain ⟨name, c, hp, rfl⟩ := mem_flatColumns_iff.mp hcolumn
      obtain rfl : name = "id" := hname
      have hfind := Shape.TableOf.isSome_find? (Node.mem_of_mem_properties hp)
      simp [Shape.TableOf.find?_id_of_effectiveKey?_eq_none hkey] at hfind
    have hcolumn : ((resolveTable tables n.flat).findColumn? "id").isSome = false :=
      Bool.eq_false_iff.mpr (mt Sql.isSome_findColumn?_iff.mp hid)
    simp [keyOf?, hprimary, hkey, hcolumn]

end Flat

variable {document : Value} {tables : List ResolvedTable}

/-- Each compiled table stands for a node that keeps the rules. -/
theorem node_of_compile (h : compile document = .ok tables) : ∀ t ∈ tables,
    ∃ n : Node, ∃ flats, t = Flat.resolveTable flats n.flat ∧ n.Regular ∧ n.Distinct := by
  obtain ⟨db, hdb, hresolve⟩ := compile_eq_ok_iff.mp h
  obtain ⟨-, hread, hproblems⟩ := validate_eq_ok_iff.mp hdb
  obtain ⟨-, -, rfl⟩ := Flat.resolve_eq_ok_iff.mp hresolve
  intro t ht
  obtain ⟨flat, hflat, rfl⟩ := List.mem_map.mp ht
  rw [Flat.flatten_eq_map_nodes] at hflat
  obtain ⟨n, hn, rfl⟩ := List.mem_map.mp hflat
  have hmem := List.mem_of_mem_filter hn
  exact ⟨n, _, rfl, Flat.regular_of_problems_eq_nil hproblems n hmem, Flat.distinct_of_read hread n hmem⟩

/-- The key of a compiled table can be defined when no reference stands in its place. -/
theorem keyed_iff_of_compile (h : compile document = .ok tables) : ∀ t ∈ tables,
    (∀ key, keyOf? t = some key → key ∈ t.columns.map (·.name)) ↔
      ∀ key, t.primaryKey = some key → key ∉ t.references.map (·.name) := by
  intro t ht
  obtain ⟨n, flats, rfl, hregular, hdistinct⟩ := node_of_compile h t ht
  rw [Flat.Node.keyOf?_eq]
  exact forall₂_congr fun key hkey => hregular.key_mem_columns_iff hdistinct hkey

/-- The foreign keys of a table have the names of its references. -/
theorem Flat.Sound.names_foreignKeys (h : Flat.Sound tables) : ∀ t ∈ tables,
    t.foreignKeys.map (·.name) = t.references.map (·.name) := by
  intro t ht
  rw [eq_comm, ← List.forall₂_eq_eq_eq, List.forall₂_map_left_iff, List.forall₂_map_right_iff]
  exact (h.foreignKeys_match t ht).imp fun _ _ hmatch => hmatch.1.symm

theorem referable_columns_eq (h : Flat.Sound tables) : ∀ t ∈ tables,
    (referable t).columns = t.columns.map (·.name) ++ t.references.map (·.name) := by
  intro t ht
  rw [referable, h.names_foreignKeys t ht]

/-- A foreign key finds its target by the label, if the column has no dot. -/
theorem found_of_sound (h : Flat.Sound tables) {t : ResolvedTable} (ht : t ∈ tables) {k : Flat.ForeignKey}
    (hk : k ∈ t.foreignKeys) (hdot : '.' ∉ k.target.column.toList) : Found tables k := by
  obtain ⟨target, htarget, hname, -, c, hc, hcolumn, -⟩ := h.targets_mem t ht k hk
  refine ⟨target, htarget, c.name, List.mem_append_left _ (List.mem_map_of_mem hc), hcolumn ▸ hdot, ?_⟩
  rw [hname, hcolumn]

/-- A script for compiled tables looks for the keys that the tables have. -/
theorem keyOf?_eq_of_compile (h : compile document = .ok tables) : ∀ t ∈ tables, keyOf? t = t.primaryKey := by
  intro t ht
  obtain ⟨n, flats, rfl, -, -⟩ := node_of_compile h t ht
  exact n.keyOf?_eq flats

theorem generate_eq_ok_iff {style : Sql.Style} {texts : List String} : generate style tables = .ok texts ↔
    ∃ statements, Sql.script style.dialect tables = .ok statements ∧ texts = statements.map (·.render style) := by
  rw [← Sql.generate_eq_ok_iff]
  unfold generate
  cases Sql.generate style tables <;> simp

theorem exists_generate_iff {style : Sql.Style} : (∃ texts, generate style tables = .ok texts) ↔
    ∃ statements, Sql.script style.dialect tables = .ok statements := by
  simp only [generate_eq_ok_iff]
  constructor
  · rintro ⟨_, statements, h, -⟩
    exact ⟨statements, h⟩
  · rintro ⟨statements, h⟩
    exact ⟨_, statements, h, rfl⟩

/-- Compiled tables can be written as a script, in any style, exactly when they are renderable. -/
theorem renderable_iff (h : compile document = .ok tables) (style : Sql.Style) :
    (∃ statements, generate style tables = .ok statements) ↔ Renderable tables := by
  obtain ⟨db, hdb, hresolve⟩ := compile_eq_ok_iff.mp h
  have hsound := Flat.sound_of_resolve hresolve (Flat.flat_names_nodup hdb)
  have hnames := referable_columns_eq hsound
  rw [exists_generate_iff, Sql.exists_script_iff hsound.names_nodup]
  constructor
  · intro hall
    refine ⟨?_, ?_, fun t ht => (hall t ht).writable, fun t ht k hk _ => (hall t ht).found k hk⟩
    · intro t ht
      rw [← hnames t ht]
      exact (hall t ht).named
    · intro t ht
      exact (keyed_iff_of_compile h t ht).mp (hall t ht).definable.keyed
  · intro hrenderable t ht
    have hnamed := hrenderable.named t ht
    have hnodup := hsound.columns_nodup t ht
    refine ⟨⟨?_, ?_, ?_⟩, hrenderable.writable t ht, ?_, ?_, ?_⟩
    · exact fun hmem => hnamed (List.mem_append_left _ hmem)
    · exact (List.nodup_append.mp hnodup).1
    · exact (keyed_iff_of_compile h t ht).mpr (hrenderable.keyed t ht)
    · rwa [hnames t ht]
    · rwa [hnames t ht]
    · intro k hk
      by_cases hdot : '.' ∈ k.target.column.toList
      · exact hrenderable.found t ht k hk hdot
      · exact found_of_sound hsound ht hk hdot

theorem exists_answer_iff {request : Request} {settings : Settings} {d : Sql.Dialect}
    (hdialect : request.chosenDialect settings = .ok d) (h : compile request.document = .ok tables) :
    (∃ c, request.answer settings = .ok c) ↔
      ∃ statements, generate (settings.style d) tables = .ok statements := by
  rw [Request.answer, hdialect]
  cases hgenerate : generate (settings.style d) tables <;>
    simp [generateSql, h, hgenerate, bind, Except.bind, pure, Except.pure]

/-- For a compiled document there are statements, in any style and for any request whose dialect is known, exactly
when its tables are renderable. -/
theorem statements_iff_renderable (h : compile document = .ok tables) :
    (∀ style, (∃ statements, generate style tables = .ok statements) ↔ Renderable tables) ∧
      ∀ request : Request, request.document = document → ∀ settings d, request.chosenDialect settings = .ok d →
        ((∃ c, request.answer settings = .ok c) ↔ Renderable tables) := by
  refine ⟨renderable_iff h, ?_⟩
  rintro request rfl settings d hdialect
  rw [exists_answer_iff hdialect h, renderable_iff h]

theorem renderable_blogTables : compile blog = .ok Flat.blogTables ∧ Renderable Flat.blogTables ∧
    ∃ c, (Request.mk blog (some "mysql")).answer {} = .ok c := by
  have h := statements_iff_renderable Flat.compile_blog
  have hrenderable : Renderable Flat.blogTables := (h.1 ⟨.postgresql, 255⟩).mp ⟨_, rfl⟩
  exact ⟨Flat.compile_blog, hrenderable, (h.2 ⟨blog, some "mysql"⟩ rfl {} .mysql rfl).mpr hrenderable⟩

/-- Posts that refer to a column with a dot in its name. -/
def dotted : Value := objectOf
  [("users", objectOf [("id", typed "integer"), ("a.b", typed "string")]),
   ("posts", objectOf [("ref", pointing "#/users/a.b")])]

/-- The label of the column is taken for a column of a table that is not there. -/
theorem dotted_not_rendered : ∃ tables, compile dotted = .ok tables ∧
    generate ⟨.postgresql, 255⟩ tables =
      .error (.broken (.script (.unknownTable "posts" "ref" ⟨"users.a", "b"⟩))) ∧
    ∀ c, generateSql ⟨.postgresql, 255⟩ dotted ≠ .ok c :=
  ⟨_, rfl, rfl, nofun⟩

end ShapeTables
