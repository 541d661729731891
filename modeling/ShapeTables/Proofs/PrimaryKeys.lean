import ShapeTables.Proofs.Rendering

/-! Keys of compiled tables. A key that keeps the rules has a type that can be pointed at, and nested tables point
at the key of the table around them. It is a column of the compiled table as long as no reference has taken its
place, and it is always the key that a script looks for. -/
namespace ShapeTables

namespace Flat

open Shape

/-- The columns that can be keys are those of the types that foreign keys can point at. -/
theorem keyProblem?_eq_none_iff {c : ValueColumn} :
    (Shape.Column.value c).keyProblem? = none ↔ (ColumnType.ofValueType c.type).isKeyType := by
  obtain ⟨type, default, enum, description⟩ := c
  rcases type with _ | _ | _ | _ | _ | _ | _ <;>
    simp [Shape.Column.keyProblem?, ColumnType.ofValueType, ColumnType.ofFormat, ColumnType.isKeyType]

variable {n : Node}

/-- The key of a node that keeps the rules is a property of a type that can be pointed at. -/
theorem Node.Regular.key_mem (h : n.Regular) {key : String} (hkey : n.table.effectiveKey? = some key) :
    ∃ c, (key, .value c) ∈ n.table.properties ∧ (ColumnType.ofValueType c.type).isKeyType := by
  obtain ⟨loc, hproblems⟩ := h.ownProblems_eq_nil
  obtain ⟨c, hc, hproblem⟩ := TableOf.key_mem hproblems hkey
  exact ⟨c, hc, keyProblem?_eq_none_iff.mp hproblem⟩

/-- A node that keeps the rules and has children has the key that they point at. -/
theorem Node.Regular.effectiveKey?_eq (h : n.Regular) {c : Node} (hc : c ∈ n.children) :
    n.table.effectiveKey? = some n.table.joinKey := by
  obtain ⟨loc, hproblems⟩ := h.ownProblems_eq_nil
  obtain ⟨⟨name, column⟩, hp, hchild⟩ := List.mem_filterMap.mp hc
  refine TableOf.effectiveKey?_eq_joinKey_of_nested hproblems hp ?_
  cases column with
  | table t => rfl
  | array items => rfl
  | _ => cases hchild

/-- The column that has the name of a key has a type that can be pointed at. -/
theorem Node.Regular.isKeyType_of_mem_columns (h : n.Regular) (hdistinct : n.Distinct) {c : Column}
    (hc : c ∈ n.flat.columns) (hkey : n.table.effectiveKey? = some c.name) : c.type.isKeyType := by
  obtain ⟨name, declared, hdeclared, rfl⟩ := mem_flatColumns_iff.mp hc
  obtain ⟨column, hcolumn, htype⟩ := h.key_mem hkey
  have heq : (name, Shape.Column.value declared) = (name, Shape.Column.value column) :=
    List.inj_on_of_nodup_map hdistinct (Node.mem_of_mem_properties hdeclared) hcolumn rfl
  cases heq
  exact htype

end Flat

open Flat (ColumnType ResolvedTable)

/-- The key of a compiled table is always the one that a script looks for, and it is one of the columns of the table,
of a type that can be pointed at, exactly when no reference has its name. -/
theorem primaryKey_mem_columns_iff {document : Value} {tables : List ResolvedTable}
    (h : compile document = .ok tables) : ∀ t ∈ tables, Sql.keyOf? t = t.primaryKey ∧
      ((∀ key, t.primaryKey = some key → ∃ c ∈ t.columns, c.name = key ∧
          c.type ∈ [ColumnType.uuid, .string, .boolean, .integer]) ↔
        ∀ key, t.primaryKey = some key → key ∉ t.references.map (·.name)) := by
  intro t ht
  have hkeyOf := keyOf?_eq_of_compile h t ht
  obtain ⟨n, flats, rfl, hregular, hdistinct⟩ := node_of_compile h t ht
  refine ⟨hkeyOf, forall₂_congr fun key hkey => ?_⟩
  refine Iff.trans ?_ (hregular.key_mem_columns_iff hdistinct hkey)
  rw [List.mem_map]
  constructor
  · rintro ⟨c, hc, hname, -⟩
    exact ⟨c, hc, hname⟩
  · rintro ⟨c, hc, rfl⟩
    exact ⟨c, hc, rfl, Flat.mem_keyTypes_iff.mpr (hregular.isKeyType_of_mem_columns hdistinct hc hkey)⟩

theorem primaryKey_blogTables : compile blog = .ok Flat.blogTables ∧ ∀ t ∈ Flat.blogTables,
    Sql.keyOf? t = t.primaryKey ∧
      ((∀ key, t.primaryKey = some key → ∃ c ∈ t.columns, c.name = key ∧
          c.type ∈ [ColumnType.uuid, .string, .boolean, .integer]) ↔
        ∀ key, t.primaryKey = some key → key ∉ t.references.map (·.name)) :=
  ⟨Flat.compile_blog, primaryKey_mem_columns_iff Flat.compile_blog⟩

/-- Users with a profile whose key has the name of its back reference. -/
def replacedKey : Value := objectOf
  [("users", objectOf [("id", typed "integer"),
    ("profile", .object [("type", .text "object"), ("x-primaryKey", .text "users_id"),
      ("properties", .object [("users_id", typed "string")])])])]

/-- The back reference has taken the place of the key. -/
theorem replacedKey_lost : ∃ tables, compile replacedKey = .ok tables ∧ ∃ t ∈ tables,
    t.primaryKey = some "users_id" ∧ t.columns = [] ∧ t.references.map (·.name) = ["users_id"] :=
  ⟨_, rfl, _, List.mem_cons_self, rfl, rfl, rfl⟩

end ShapeTables
