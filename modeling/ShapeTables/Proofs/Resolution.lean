import ShapeTables.Proofs.Names
import ShapeTables.Proofs.Stages

/-! Resolution of references. Resolving succeeds when no two tables have one name and each pointer leads to a
column of a type that can be a key; then every reference has its foreign key, in order. The compiled tables of
a document are therefore sound as a relational schema. -/
namespace ShapeTables.Flat

variable {tables : List Table}

theorem duplicateProblems_eq_nil_iff {seen : List String} : duplicateProblems seen tables = [] ↔
    (tables.map (·.name)).Nodup ∧ ∀ t ∈ tables, t.name ∉ seen := by
  induction tables generalizing seen with
  | nil => simp [duplicateProblems]
  | cons t rest ih =>
    rw [duplicateProblems]
    split
    · next hseen => simp [hseen]
    · next hseen =>
      simp only [ih, List.map_cons, List.nodup_cons, List.mem_cons, List.mem_map, not_or, not_exists, not_and]
      grind

/-- A reference is resolved when the first table of the name that its pointer has is there and has a column of a
type that can be a key. -/
theorem resolveReference_eq_ok_iff {r : Reference} {k : ForeignKey} : resolveReference tables r = .ok k ↔
    ∃ target c, tables.find? (fun t => t.name = (Shape.Pointer.split r.pointer).1) = some target ∧
      target.findColumn? (Shape.Pointer.split r.pointer).2 = some c ∧ c.type.isKeyType ∧
      k = ⟨r.name, c.type, ⟨target.name, c.name⟩, r.oneToMany⟩ := by
  unfold resolveReference
  rcases Shape.Pointer.split r.pointer with ⟨table, column⟩
  constructor
  · intro h
    dsimp only at h
    split at h
    · cases h
    · next target htarget =>
      split at h
      · cases h
      · next c hc =>
        split at h
        · next htype => exact ⟨target, c, htarget, hc, htype, (Except.ok.inj h).symm⟩
        · cases h
  · rintro ⟨target, c, htarget, hc, htype, rfl⟩
    simp [htarget, hc, htype]

theorem referenceProblems_eq_nil_iff : referenceProblems tables = [] ↔
    ∀ t ∈ tables, ∀ r ∈ t.references, ∃ k, resolveReference tables r = .ok k := by
  simp only [referenceProblems, List.flatMap_eq_nil_iff, List.filterMap_eq_nil_iff]
  refine forall₂_congr fun t _ => forall₂_congr fun r _ => ?_
  cases resolveReference tables r <;> simp

/-- Resolving succeeds when the names of the tables differ and all references are resolved. -/
theorem resolve_eq_ok_iff {resolved : List ResolvedTable} : resolve tables = .ok resolved ↔
    (tables.map (·.name)).Nodup ∧ (∀ t ∈ tables, ∀ r ∈ t.references, ∃ k, resolveReference tables r = .ok k) ∧
      resolved = tables.map (resolveTable tables) := by
  have hnil : duplicateProblems [] tables ++ referenceProblems tables = [] ↔ (tables.map (·.name)).Nodup ∧
      ∀ t ∈ tables, ∀ r ∈ t.references, ∃ k, resolveReference tables r = .ok k := by
    simp [List.append_eq_nil_iff, duplicateProblems_eq_nil_iff, referenceProblems_eq_nil_iff]
  rw [← and_assoc, ← hnil, resolve]
  split
  · next h => simp [h, eq_comm]
  · next problems hne => exact ⟨fun h => (nomatch h), fun h => absurd h.1 hne⟩

/-- Resolving fails when there are problems, and with all of them. -/
theorem resolve_eq_error_iff {problems : List Problem} : resolve tables = .error problems ↔
    problems = duplicateProblems [] tables ++ referenceProblems tables ∧ problems ≠ [] := by
  unfold resolve
  split
  · next h =>
    constructor
    · rintro ⟨⟩
    · rintro ⟨rfl, hne⟩
      exact absurd h hne
  · next hne =>
    constructor
    · rintro ⟨⟩
      exact ⟨rfl, hne⟩
    · rintro ⟨rfl, -⟩
      rfl

/-- The foreign keys of a table stand for its references one by one. -/
theorem forall₂_foreignKeys {t : Table} (h : ∀ r ∈ t.references, ∃ k, resolveReference tables r = .ok k) :
    List.Forall₂ (fun r k => resolveReference tables r = .ok k) t.references
      (resolveTable tables t).foreignKeys := by
  simp only [resolveTable]
  generalize t.references = references at h
  induction references with
  | nil => exact .nil
  | cons r rest ih =>
    obtain ⟨k, hk⟩ := h r List.mem_cons_self
    rw [List.filterMap_cons, hk]
    exact .cons hk (ih fun r' hr' => h r' (List.mem_cons_of_mem _ hr'))

/-! ### Compiled tables -/

/-- Tables whose names and columns can be told apart and whose foreign keys lead to columns of their types. -/
structure Sound (tables : List ResolvedTable) : Prop where
  names_nodup : (tables.map (·.name)).Nodup
  columns_nodup : ∀ t ∈ tables, (t.columns.map (·.name) ++ t.references.map (·.name)).Nodup
  /-- The foreign keys stand for the references one by one. -/
  foreignKeys_match : ∀ t ∈ tables,
    List.Forall₂ (fun r k => k.name = r.name ∧ k.oneToMany = r.oneToMany) t.references t.foreignKeys
  /-- A foreign key leads to a column, and to no reference, of one of the tables. -/
  targets_mem : ∀ t ∈ tables, ∀ k ∈ t.foreignKeys, ∃ target ∈ tables, target.name = k.target.table ∧
    k.target.column ∉ target.references.map (·.name) ∧
    ∃ c ∈ target.columns, c.name = k.target.column ∧ c.type = k.type
  types_mem : ∀ t ∈ tables, ∀ k ∈ t.foreignKeys,
    k.type ∈ [ColumnType.uuid, .string, .boolean, .integer]

theorem mem_keyTypes_iff {type : ColumnType} :
    type ∈ [ColumnType.uuid, .string, .boolean, .integer] ↔ type.isKeyType := by
  cases type <;> simp [ColumnType.isKeyType]

/-- Tables are resolved to sound ones if the columns and references of each have different names. -/
theorem sound_of_resolve {resolved : List ResolvedTable} (h : resolve tables = .ok resolved)
    (hcolumns : ∀ t ∈ tables, (t.columns.map (·.name) ++ t.references.map (·.name)).Nodup) : Sound resolved := by
  obtain ⟨hnames, hreferences, rfl⟩ := resolve_eq_ok_iff.mp h
  have hkeys : ∀ t ∈ tables, ∀ k ∈ (resolveTable tables t).foreignKeys, ∃ r,
      resolveReference tables r = .ok k := by
    intro t ht k hk
    obtain ⟨r, -, hr⟩ := (Rearranged.of_forall₂ (forall₂_foreignKeys (hreferences t ht))).exists_left hk
    exact ⟨r, hr⟩
  refine ⟨?_, ?_, ?_, ?_, ?_⟩
  · rw [List.map_map]
    exact hnames
  · rintro _ hmem
    obtain ⟨t, ht, rfl⟩ := List.mem_map.mp hmem
    exact hcolumns t ht
  · rintro _ hmem
    obtain ⟨t, ht, rfl⟩ := List.mem_map.mp hmem
    refine (forall₂_foreignKeys (hreferences t ht)).imp fun r k hr => ?_
    obtain ⟨_, _, -, -, -, rfl⟩ := resolveReference_eq_ok_iff.mp hr
    exact ⟨rfl, rfl⟩
  · rintro _ hmem k hk
    obtain ⟨t, ht, rfl⟩ := List.mem_map.mp hmem
    obtain ⟨r, hr⟩ := hkeys t ht k hk
    obtain ⟨target, c, htarget, hc, -, rfl⟩ := resolveReference_eq_ok_iff.mp hr
    have htargetMem := List.mem_of_find?_eq_some htarget
    have hcMem := List.mem_of_find?_eq_some hc
    refine ⟨_, List.mem_map_of_mem htargetMem, rfl, fun hreference => ?_, c, hcMem, rfl, rfl⟩
    exact (List.nodup_append.mp (hcolumns target htargetMem)).2.2 c.name (List.mem_map_of_mem hcMem) c.name
      hreference rfl
  · rintro _ hmem k hk
    obtain ⟨t, ht, rfl⟩ := List.mem_map.mp hmem
    obtain ⟨r, hr⟩ := hkeys t ht k hk
    obtain ⟨_, c, -, -, htype, rfl⟩ := resolveReference_eq_ok_iff.mp hr
    exact mem_keyTypes_iff.mpr htype

/-- The columns and references of each flat table of a valid document have different names. -/
theorem flat_names_nodup {document : Value} {db : Shape.Database} (h : validate document = .ok db) :
    ∀ t ∈ flatten db, (t.columns.map (·.name) ++ t.references.map (·.name)).Nodup := by
  intro t ht
  rw [flatten_eq_map_nodes] at ht
  obtain ⟨n, hn, rfl⟩ := List.mem_map.mp ht
  exact (distinct_of_read (validate_eq_ok_iff.mp h).2.1 n (List.mem_of_mem_filter hn)).flat_names

/-- The tables of a compiled document have different names. -/
theorem names_nodup_of_compile {document : Value} {resolved : List ResolvedTable}
    (h : compile document = .ok resolved) : (resolved.map (·.name)).Nodup := by
  obtain ⟨db, -, hresolve⟩ := compile_eq_ok_iff.mp h
  obtain ⟨hnames, -, rfl⟩ := resolve_eq_ok_iff.mp hresolve
  rw [List.map_map]
  exact hnames

/-- The tables of a compiled document, as a relational schema, are sound. -/
theorem sound_of_compile {document : Value} {resolved : List ResolvedTable}
    (h : compile document = .ok resolved) :
    Sound resolved := by
  obtain ⟨db, hdb, hresolve⟩ := compile_eq_ok_iff.mp h
  exact sound_of_resolve hresolve (flat_names_nodup hdb)

/-- The tables of posts by users, with comments. -/
def blogTables : List ResolvedTable :=
  [{ name := "users", required := none, primaryKey := some "id", references := [], foreignKeys := []
     columns := [⟨"id", .integer, none, none, none⟩, ⟨"name", .string, none, none, none⟩] },
   { name := "posts_comments", required := none, primaryKey := none
     columns := [⟨"text", .string, none, none, none⟩]
     references := [⟨"posts_id", "#/posts/id",
       ["properties", "posts", "properties", "comments", "items", "properties"], true⟩]
     foreignKeys := [⟨"posts_id", .integer, ⟨"posts", "id"⟩, true⟩] },
   { name := "posts", required := none, primaryKey := some "id"
     columns := [⟨"id", .integer, none, none, none⟩]
     references := [⟨"author", "#/users/name", ["properties", "posts", "properties"], false⟩]
     foreignKeys := [⟨"author", .string, ⟨"users", "name"⟩, false⟩] }]

theorem compile_blog : compile blog = .ok blogTables := rfl

theorem sound_blogTables : compile blog = .ok blogTables ∧ Sound blogTables :=
  ⟨compile_blog, sound_of_compile compile_blog⟩

end ShapeTables.Flat
