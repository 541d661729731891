import ShapeTables.Proofs.Names
import ShapeTables.Shape.Rules

/-! Keys of shapes that keep the rules. The rules are kept at each node on its own, so that the key of every
node is a property with values; in the flat table it is a column unless a back reference has taken its place. -/
namespace ShapeTables.Shape

/-- Whether the pointer of a reference has the right form does not depend on where it stands. -/
theorem refProblems_eq_nil_iff {loc : Location} {pointer : String} :
    refProblems loc pointer = [] ↔ Pointer.problems pointer = [] := by
  rw [refProblems, List.map_eq_nil_iff]

theorem propertyProblems_eq_nil_iff {loc : Location} {properties : List (String × Column)} :
    propertyProblems loc properties = [] ↔
      ∀ p ∈ properties, columnProblems (loc ++ [.name "properties", .name p.1]) p.2 = [] := by
  induction properties with
  | nil => simp [propertyProblems]
  | cons p rest ih => rw [propertyProblems, List.append_eq_nil_iff, ih, List.forall_mem_cons]

theorem tableProblems_eq_nil_iff {loc : Location} {t : Table} : tableProblems loc t = [] ↔
    (∀ p ∈ t.properties, columnProblems (loc ++ [.name "properties", .name p.1]) p.2 = []) ∧
      ownProblems loc t = [] := by
  obtain ⟨properties, required, primaryKey⟩ := t
  rw [tableProblems, List.append_eq_nil_iff, propertyProblems_eq_nil_iff]

/-- A column that can be a key has values. -/
theorem Column.of_keyProblem?_eq_none {column : Column} (h : column.keyProblem? = none) :
    ∃ c, column = .value c := by
  cases column with
  | value c => exact ⟨c, rfl⟩
  | _ => cases h

namespace TableOf

theorem mem_of_find? {t : Table} {name : String} {column : Column} (h : t.find? name = some column) :
    (name, column) ∈ t.properties :=
  mem_of_lookup_eq_some h

theorem isSome_find? {t : Table} {name : String} {column : Column} (h : (name, column) ∈ t.properties) :
    (t.find? name).isSome := by
  rw [Option.isSome_iff_ne_none]
  intro hnone
  simpa using List.lookup_eq_none_iff.mp hnone _ h

theorem explicitKey?_ne_some_empty {t : Table} : t.explicitKey? ≠ some "" := by
  unfold explicitKey?
  split
  · simp
  · simp
  · next key hne _ => exact fun h => hne (Option.some.inj h)

theorem effectiveKey?_ne_some_empty {t : Table} : t.effectiveKey? ≠ some "" := by
  unfold effectiveKey?
  split
  · next key hkey => exact fun h => explicitKey?_ne_some_empty (hkey.trans h)
  · split <;> simp

theorem find?_id_of_effectiveKey?_eq_none {t : Table} (h : t.effectiveKey? = none) : t.find? "id" = none := by
  unfold effectiveKey? at h
  split at h
  · cases h
  · simpa using h

/-- The key of a table that keeps the rules is a property with values that can be pointed at. -/
theorem find?_key {t : Table} {loc : Location} (h : ownProblems loc t = []) {key : String}
    (hkey : t.effectiveKey? = some key) :
    ∃ c, t.find? key = some (.value c) ∧ (Column.value c).keyProblem? = none := by
  have hvalue : ∀ column, t.find? key = some column → column.keyProblem? = none →
      ∃ c, t.find? key = some (.value c) ∧ (Column.value c).keyProblem? = none := by
    intro column hfind hproblem
    obtain ⟨c, rfl⟩ := Column.of_keyProblem?_eq_none hproblem
    exact ⟨c, hfind, hproblem⟩
  unfold ownProblems at h
  simp only [List.append_eq_nil_iff] at h
  cases hexplicit : t.explicitKey? with
  | some named =>
    simp only [effectiveKey?, hexplicit, Option.some.injEq] at hkey
    subst hkey
    have hproblems := h.2
    simp only [hexplicit, namedKeyProblems] at hproblems
    obtain hfind | ⟨column, hfind⟩ := (t.find? named).eq_none_or_eq_some
    · simp [hfind] at hproblems
    · exact hvalue column hfind (by simpa [hfind] using hproblems)
  | none =>
    simp only [effectiveKey?, hexplicit, Option.ite_none_right_eq_some, Option.some.injEq] at hkey
    obtain ⟨hid, rfl⟩ := hkey
    have hproblems := h.1.1
    obtain ⟨column, hfind⟩ := Option.isSome_iff_exists.mp hid
    simp only [hexplicit, impliedKeyProblems, hfind] at hproblems
    exact hvalue column hfind (by simpa using hproblems)

theorem key_mem {t : Table} {loc : Location} (h : ownProblems loc t = []) {key : String}
    (hkey : t.effectiveKey? = some key) :
    ∃ c, (key, .value c) ∈ t.properties ∧ (Column.value c).keyProblem? = none := by
  obtain ⟨c, hfind, hproblem⟩ := find?_key h hkey
  exact ⟨c, mem_of_find? hfind, hproblem⟩

/-- A table has the key that is pointed at if it names a key or has a column named id. -/
theorem effectiveKey?_eq_joinKey_iff {t : Table} :
    t.effectiveKey? = some t.joinKey ↔ t.explicitKey?.isSome ∨ (t.find? "id").isSome := by
  unfold effectiveKey? joinKey
  cases t.explicitKey? <;> simp [Option.isSome_iff_ne_none]

/-- A table that keeps the rules and has a nested table or array has the key that is pointed at. -/
theorem effectiveKey?_eq_joinKey_of_nested {t : Table} {loc : Location} (h : ownProblems loc t = [])
    {p : String × Column} (hp : p ∈ t.properties) (hnested : p.2.nestedType?.isSome) :
    t.effectiveKey? = some t.joinKey := by
  rw [effectiveKey?_eq_joinKey_iff]
  by_contra hnone
  obtain ⟨hexplicit, hid⟩ := not_or.mp hnone
  rw [Option.not_isSome_iff_eq_none] at hexplicit hid
  -- the nested property would be reported
  unfold ownProblems at h
  have himplied := (List.append_eq_nil_iff.mp (List.append_eq_nil_iff.mp h).1).1
  have hfirst : firstNested? t.properties = none := by
    simpa [hexplicit, impliedKeyProblems, hid] using himplied
  have htype := List.findSome?_eq_none_iff.mp hfirst p hp
  rw [Option.map_eq_none_iff] at htype
  simp [htype] at hnested

end TableOf

end ShapeTables.Shape

namespace ShapeTables.Flat

open Shape

/-- Nodes that keep the rules, together with all that they hold. -/
def Node.Regular (n : Node) : Prop := ∃ loc, tableProblems loc n.table = []

theorem Node.Regular.ownProblems_eq_nil {n : Node} (h : n.Regular) : ∃ loc, ownProblems loc n.table = [] :=
  h.imp fun _ hproblems => (tableProblems_eq_nil_iff.mp hproblems).2

/-- The table around the items of an array that holds no tables adds no problems to those of the items. -/
theorem tableProblems_wrapper_eq_nil_iff {loc : Location} {items : Shape.Column} (h : items.nestedType? = none) :
    tableProblems loc (wrapper items) = [] ↔
      columnProblems (loc ++ [.name "properties", .name "value"]) items = [] := by
  have hown : ownProblems loc (wrapper items) = [] := by
    simp [wrapper, ownProblems, TableOf.explicitKey?, impliedKeyProblems, TableOf.find?, List.lookup_cons,
      firstNested?, h, requiredProblems]
  rw [tableProblems_eq_nil_iff, and_iff_left hown]
  simp [wrapper]

theorem Node.Regular.children {n : Node} (h : n.Regular) : ∀ c ∈ n.children, c.Regular := by
  obtain ⟨loc, hproblems⟩ := h
  intro c hc
  obtain ⟨⟨name, column⟩, hp, hchild⟩ := List.mem_filterMap.mp hc
  have hcolumn := (tableProblems_eq_nil_iff.mp hproblems).1 _ hp
  cases column with
  | ref pointer => cases hchild
  | value column => cases hchild
  | table t =>
    cases hchild
    exact ⟨_, hcolumn⟩
  | array items =>
    cases hchild
    cases items with
    | table t => exact ⟨_, hcolumn⟩
    | ref pointer => exact ⟨[], (tableProblems_wrapper_eq_nil_iff rfl).mpr
        (refProblems_eq_nil_iff.mpr (refProblems_eq_nil_iff.mp hcolumn))⟩
    | value column => exact ⟨[], (tableProblems_wrapper_eq_nil_iff rfl).mpr rfl⟩

/-- The nodes of a shape that keeps the rules keep them. -/
theorem regular_of_problems_eq_nil {db : Database} (h : db.problems = []) : ∀ n ∈ nodes db, n.Regular := by
  apply of_mem_nodes
  · intro r hr
    obtain ⟨⟨name, t⟩, ht, rfl⟩ := List.mem_map.mp hr
    exact ⟨_, List.flatMap_eq_nil_iff.mp h _ ht⟩
  · exact fun n hn c hc => hn.children c hc

variable {n : Node}

/-- The back reference of a node is one of the references of its flat table. -/
theorem Node.mem_references_of_back (hdistinct : n.Distinct) {back : BackReference} (hback : n.way.back = some back) :
    ⟨back.name, back.pointer, n.way.schemaPath, n.way.oneToMany⟩ ∈ n.flat.references :=
  mem_flatReferences_iff.mpr ⟨_, _, (Node.mem_properties_iff hdistinct hback).mpr (.inl rfl), rfl⟩

/-- The key of a node that keeps the rules is a column of its flat table, unless its back reference has the name of
the key. -/
theorem Node.Regular.key_mem_columns (h : n.Regular) (hdistinct : n.Distinct) {key : String}
    (hkey : n.table.effectiveKey? = some key) (hother : ∀ back, n.way.back = some back → back.name ≠ key) :
    key ∈ n.flat.columns.map (·.name) := by
  obtain ⟨loc, hproblems⟩ := h.ownProblems_eq_nil
  obtain ⟨c, hc, -⟩ := TableOf.key_mem hproblems hkey
  have hmem : (key, .value c) ∈ n.properties := by
    cases hback : n.way.back with
    | none => simpa [Node.properties, hback, withBack] using hc
    | some back => exact (Node.mem_properties_iff hdistinct hback).mpr (.inr ⟨hc, (hother back hback).symm⟩)
  exact List.mem_map.mpr ⟨_, mem_flatColumns_iff.mpr ⟨key, c, hmem, rfl⟩, rfl⟩

/-- The key of a node that keeps the rules is a column of its flat table, unless a reference is in its place. -/
theorem Node.Regular.key_mem_columns_iff (h : n.Regular) (hdistinct : n.Distinct) {key : String}
    (hkey : n.table.effectiveKey? = some key) :
    key ∈ n.flat.columns.map (·.name) ↔ key ∉ n.flat.references.map (·.name) := by
  constructor
  · intro hcolumn hreference
    exact (List.nodup_append.mp hdistinct.flat_names).2.2 key hcolumn key hreference rfl
  · intro hreference
    refine h.key_mem_columns hdistinct hkey fun back hback hname => hreference ?_
    exact List.mem_map.mpr ⟨_, Node.mem_references_of_back hdistinct hback, hname⟩

end ShapeTables.Flat
