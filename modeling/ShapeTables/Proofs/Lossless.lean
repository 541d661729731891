import ShapeTables.Proofs.Names
import ShapeTables.Proofs.Stages

/-! What flattening keeps of a shape. Each node should have its flat table, in which every property with values
is a column and every reference a reference. A back reference takes the place of a property of its name, so
this holds exactly of the shapes in which no table has a property of the name of its back reference, unless it
is that reference. -/
namespace ShapeTables.Flat

open Shape (Items Database qualifiedName)

/-! ### Counting nodes -/

mutual

/-- The sum over a table of `object` for each object and `array` for each array of anything else. -/
def tableSum (object array : Nat) : Shape.Table → Nat
  | ⟨properties, _, _⟩ => object + propertySum object array properties

def propertySum (object array : Nat) : List (String × Shape.Column) → Nat
  | [] => 0
  | (_, column) :: rest => columnSum object array column + propertySum object array rest

def columnSum (object array : Nat) : Shape.Column → Nat
  | .ref _ => 0
  | .value _ => 0
  | .table t => tableSum object array t
  | .array items => itemSum object array items

def itemSum (object array : Nat) : Items → Nat
  | .ref _ => array
  | .value _ => array
  | .table t => tableSum object array t

end

/-- The sum over all tables of a shape. -/
def databaseSum (object array : Nat) (db : Database) : Nat :=
  db.tables.foldr (fun (_, t) rest => tableSum object array t + rest) 0

def objectCount (db : Database) : Nat := databaseSum 1 0 db

/-- The number of arrays whose items are no objects. -/
def plainArrayCount (db : Database) : Nat := databaseSum 0 1 db

mutual

theorem length_tableNodes (w : Way) : ∀ t : Shape.Table, (tableNodes w t).length = tableSum 1 0 t + tableSum 0 1 t
  | ⟨properties, required, primaryKey⟩ => by
    have ih := length_propertyNodes w (Shape.TableOf.joinKey ⟨properties, required, primaryKey⟩) properties
    simp only [tableNodes, tableSum, List.length_append, List.length_singleton, ih]
    omega

theorem length_propertyNodes (w : Way) (key : String) : ∀ properties : List (String × Shape.Column),
    (propertyNodes w key properties).length = propertySum 1 0 properties + propertySum 0 1 properties
  | [] => rfl
  | (name, column) :: rest => by
    have hcolumn := length_columnNodes w key name column
    have hrest := length_propertyNodes w key rest
    simp only [propertyNodes, propertySum, List.length_append, hcolumn, hrest]
    omega

theorem length_columnNodes (w : Way) (key name : String) : ∀ column : Shape.Column,
    (columnNodes w key name column).length = columnSum 1 0 column + columnSum 0 1 column
  | .ref _ => rfl
  | .value _ => rfl
  | .table t => length_tableNodes _ t
  | .array items => length_itemNodes _ items

theorem length_itemNodes (w : Way) : ∀ items : Items,
    (itemNodes w items).length = itemSum 1 0 items + itemSum 0 1 items
  | .ref _ => rfl
  | .value _ => rfl
  | .table t => length_tableNodes w t

end

theorem length_nodes (db : Database) : (nodes db).length = objectCount db + plainArrayCount db := by
  simp only [nodes, roots, objectCount, plainArrayCount, databaseSum]
  induction db.tables with
  | nil => rfl
  | cons t rest ih =>
    have ht : (Node.mk (.root t.1) t.2).subtree.length = tableSum 1 0 t.2 + tableSum 0 1 t.2 :=
      length_tableNodes _ t.2
    simp only [List.map_cons, List.flatMap_cons, List.length_append, List.foldr_cons, ih, ht]
    omega

/-! ### Nodes and their flat tables -/

/-- A flat table that has all columns and references that a node declares, each of them once. -/
structure Keeps (n : Node) (t : Table) : Prop where
  name_eq : t.name = qualifiedName n.way.path
  columns : ∀ name column, (name, .value column) ∈ n.table.properties →
    t.columns.filter (·.name = name) = [columnOf name column]
  references : ∀ name pointer, (name, .ref pointer) ∈ n.table.properties →
    (t.references.filter (·.name = name)).map (·.pointer) = [pointer]

/-- Shapes that are flattened without loss: to as many tables as there are objects and arrays of anything
else, of which each keeps what its node declares. -/
structure Lossless (db : Database) : Prop where
  length_eq : (flatten db).length = objectCount db + plainArrayCount db
  keeps : List.Forall₂ Keeps (nodes db) (flatten db)

/-- Nodes without a property of the name of their back reference, unless it is that reference. -/
def Node.Intact (n : Node) : Prop :=
  ∀ back, n.way.back = some back → ∀ column, (back.name, column) ∈ n.table.properties → column = .ref back.pointer

variable {db : Database}

theorem filter_eq_singleton {α : Type} {f : α → String} {xs : List α} (h : (xs.map f).Nodup) {x : α}
    (hx : x ∈ xs) : xs.filter (f · = f x) = [x] := by
  induction xs with
  | nil => simp at hx
  | cons y ys ih =>
    obtain ⟨hy, hys⟩ := List.nodup_cons.mp h
    rcases List.mem_cons.mp hx with rfl | hx
    · have hnone : ys.filter (f · = f x) = [] := by
        rw [List.filter_eq_nil_iff]
        intro z hz heq
        exact hy (of_decide_eq_true heq ▸ List.mem_map_of_mem hz)
      rw [List.filter_cons_of_pos (by simp), hnone]
    · have hne : f y ≠ f x := fun heq => hy (heq ▸ List.mem_map_of_mem hx)
      rw [List.filter_cons_of_neg (by simpa using hne), ih hys hx]

/-- Every property of an intact node is one that its flat table is made of. -/
theorem Node.Intact.mem_properties {n : Node} (h : n.Intact) (hdistinct : n.Distinct) {p : String × Shape.Column}
    (hp : p ∈ n.table.properties) : p ∈ n.properties := by
  cases hback : n.way.back with
  | none => simpa [Node.properties, hback, withBack] using hp
  | some back =>
    rw [mem_properties_iff hdistinct hback]
    by_cases hname : p.1 = back.name
    · obtain ⟨name, column⟩ := p
      cases hname
      exact .inl (by rw [h back hback column hp])
    · exact .inr ⟨hp, hname⟩

theorem Node.Intact.keeps {n : Node} (h : n.Intact) (hdistinct : n.Distinct) : Keeps n n.flat := by
  have hnames := List.nodup_append.mp hdistinct.flat_names
  refine ⟨rfl, fun name column hp => ?_, fun name pointer hp => ?_⟩
  · have hmem : columnOf name column ∈ n.flat.columns :=
      mem_flatColumns_iff.mpr ⟨name, column, h.mem_properties hdistinct hp, rfl⟩
    exact filter_eq_singleton (f := Column.name) hnames.1 hmem
  · have hmem : (⟨name, pointer, n.way.schemaPath, n.way.oneToMany⟩ : Reference) ∈ n.flat.references :=
      mem_flatReferences_iff.mpr ⟨name, pointer, h.mem_properties hdistinct hp, rfl⟩
    rw [filter_eq_singleton (f := Reference.name) hnames.2.1 hmem]
    rfl

/-- No node is lost when all are intact. -/
theorem kept_of_intact (h : ∀ n ∈ nodes db, n.Intact) : ∀ n ∈ nodes db, n.way.kept := by
  suffices hboth : ∀ n ∈ nodes db, n ∈ nodes db ∧ n.way.kept from fun n hn => (hboth n hn).2
  apply of_mem_nodes
  · intro r hr
    refine ⟨mem_nodes_iff.mpr ⟨r, hr, r.mem_subtree_self⟩, ?_⟩
    obtain ⟨t, -, rfl⟩ := List.mem_map.mp hr
    rfl
  · rintro n ⟨hn, hkept⟩ c hc
    refine ⟨children_subset_nodes hn hc, ?_⟩
    obtain ⟨⟨name, column⟩, hp, hchild⟩ := List.mem_filterMap.mp hc
    rw [Node.kept_of_child? hchild, hkept, Bool.true_and, decide_eq_true_iff]
    intro hname
    obtain ⟨back, hback, rfl⟩ := Option.map_eq_some_iff.mp hname
    rw [h n hn back hback column hp] at hchild
    cases hchild

theorem kept_of_length_flatten (h : (flatten db).length = (nodes db).length) : ∀ n ∈ nodes db, n.way.kept := by
  rw [flatten_eq_map_nodes, List.length_map, List.length_filter_eq_length_iff] at h
  exact h

/-- A node whose flat table and whose children are kept is intact. -/
theorem intact_of_keeps {n : Node} (hdistinct : n.Distinct) (hkeeps : Keeps n n.flat)
    (hchildren : ∀ c ∈ n.children, c.way.kept) : n.Intact := by
  intro back hback column hp
  have hnested : ∀ c, Node.child? n.way n.table.joinKey (back.name, column) = some c → False := by
    intro c hc
    have hkept := hchildren c (List.mem_filterMap.mpr ⟨_, hp, hc⟩)
    simp [Node.kept_of_child? hc, hback] at hkept
  cases column with
  | ref pointer =>
    have hmem : (⟨back.name, back.pointer, n.way.schemaPath, n.way.oneToMany⟩ : Reference) ∈ n.flat.references :=
      mem_flatReferences_iff.mpr ⟨_, _, (Node.mem_properties_iff hdistinct hback).mpr (.inl rfl), rfl⟩
    have hpointer : back.pointer ∈ (n.flat.references.filter (·.name = back.name)).map (·.pointer) :=
      List.mem_map_of_mem (List.mem_filter.mpr ⟨hmem, by simp⟩)
    rw [hkeeps.references _ _ hp, List.mem_singleton] at hpointer
    rw [hpointer]
  | value column =>
    have hmem : columnOf back.name column ∈ n.flat.columns.filter (·.name = back.name) := by
      simp [hkeeps.columns _ _ hp]
    obtain ⟨name, column', hp', heq⟩ := mem_flatColumns_iff.mp (List.mem_of_mem_filter hmem)
    have hname : name = back.name := (congrArg Column.name heq).symm
    rcases (Node.mem_properties_iff hdistinct hback).mp hp' with h | ⟨-, hne⟩
    · cases h
    · exact absurd hname hne
  | table t => exact (hnested _ rfl).elim
  | array items => exact (hnested _ rfl).elim

/-- A valid document is flattened without loss exactly when all nodes of its shape are intact. -/
theorem lossless_iff {document : Value} (h : validate document = .ok db) :
    Lossless db ↔ ∀ n ∈ nodes db, n.Intact := by
  have hdistinct := distinct_of_read (validate_eq_ok_iff.mp h).2.1
  have hflatten : (∀ n ∈ nodes db, n.way.kept) → flatten db = (nodes db).map Node.flat := fun hkept => by
    rw [flatten_eq_map_nodes, List.filter_eq_self.mpr hkept]
  constructor
  · intro hlossless n hn
    have hkept := kept_of_length_flatten (hlossless.length_eq.trans (length_nodes db).symm)
    have hkeeps := hlossless.keeps
    rw [hflatten hkept, List.forall₂_map_right_iff, List.forall₂_same] at hkeeps
    exact intact_of_keeps (hdistinct n hn) (hkeeps n hn) fun c hc => hkept c (children_subset_nodes hn hc)
  · intro hintact
    have heq := hflatten (kept_of_intact hintact)
    refine ⟨?_, ?_⟩
    · rw [heq, List.length_map, length_nodes]
    · rw [heq, List.forall₂_map_right_iff, List.forall₂_same]
      exact fun n hn => (hintact n hn).keeps (hdistinct n hn)

/-- The shape of posts by users, with comments. -/
def blogShape : Database :=
  ⟨[("users", ⟨[("id", .value ⟨.integer, none, none, none⟩), ("name", .value ⟨.string none, none, none, none⟩)],
      none, none⟩),
    ("posts", ⟨[("id", .value ⟨.integer, none, none, none⟩), ("author", .ref "#/users/name"),
      ("comments", .array (.table ⟨[("text", .value ⟨.string none, none, none, none⟩)], none, none⟩))],
      none, none⟩)]⟩

theorem lossless_blogShape : validate blog = .ok blogShape ∧ Lossless blogShape := by
  have hvalid : validate blog = .ok blogShape := rfl
  refine ⟨hvalid, (lossless_iff hvalid).mpr fun n hn => ?_⟩
  simp only [nodes, roots, blogShape, Node.subtree, tableNodes, propertyNodes, columnNodes, itemNodes,
    List.map_cons, List.map_nil, List.flatMap_cons, List.flatMap_nil, List.nil_append, List.append_nil,
    List.cons_append, List.mem_cons, List.not_mem_nil, or_false] at hn
  rcases hn with rfl | rfl | rfl
  · intro back hback
    cases hback
  · intro back hback column hmem
    cases hback
    have hname : (BackReference.to ["posts"] "id").name = "text" := congrArg Prod.fst (List.mem_singleton.mp hmem)
    exact absurd hname (by decide)
  · intro back hback
    cases hback

/-- Users with a profile that has a table of the name of its back reference. -/
def overwritten : Value := objectOf
  [("users", objectOf [("id", typed "integer"),
    ("profile", objectOf [("id", typed "integer"), ("users_id", objectOf [])])])]

/-- The table is lost. -/
theorem overwritten_not_lossless : ∃ db, validate overwritten = .ok db ∧
    (flatten db).length = 2 ∧ objectCount db + plainArrayCount db = 3 ∧ ¬Lossless db := by
  refine ⟨_, rfl, rfl, rfl, fun h => ?_⟩
  exact absurd h.length_eq (by decide)

end ShapeTables.Flat
