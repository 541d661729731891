import ShapeTables.Proofs.Keys
import ShapeTables.Proofs.Lossless

/-! The order of flat tables. Flattening walks through a shape: below each table it goes to the nested tables in the
order of the properties, and then it comes to the table itself. The flat table it makes there is named by the way to
the table and keeps its key, what it requires and its columns; its references are those that the table has, and in a
nested table one more, to the key of the table around. A property of the name of this reference counts for nothing. -/
namespace ShapeTables.Flat

open Shape (Database)
open Text (joinWith joinWith_cons joinWith_concat)

/-! ### Places -/

/-- A table that others are nested in, and the names on the way to it. -/
structure Parent where
  path : List String
  table : Shape.Table

namespace Parent

/-- The name of the references to the key of a table. -/
def linkName (p : Parent) : String := joinWith '_' p.path ++ "_" ++ p.table.joinKey

def linkPointer (p : Parent) : String := "#/" ++ joinWith '/' (p.path ++ [p.table.joinKey])

end Parent

/-- Where a table is: the names on the way to it, the table that it is nested in, and whether it holds the items of
an array. -/
structure Place where
  path : List String
  parent : Option Parent
  isArray : Bool

namespace Place

def root (name : String) : Place := ⟨[name], none, false⟩

/-- The place of what is nested in a table under a name. -/
def inside (p : Place) (t : Shape.Table) (name : String) (isArray : Bool) : Place :=
  ⟨p.path ++ [name], some ⟨p.path, t⟩, isArray⟩

/-- Whether a property counts: it does not have the name of the reference to the table around. -/
def counts (p : Place) (property : String × Shape.Column) : Bool :=
  decide (p.parent.map Parent.linkName ≠ some property.1)

/-- The properties of a table that count. -/
def remaining (p : Place) (t : Shape.Table) : List (String × Shape.Column) := t.properties.filter p.counts

end Place

/-- The name and pointer of a property that is a reference. -/
def declaredReference? : String × Shape.Column → Option (String × String)
  | (name, .ref pointer) => some (name, pointer)
  | _ => none

/-- The flat table of a table at a place. -/
structure StandsFor (p : Place) (t : Shape.Table) (own : Table) : Prop where
  name_eq : own.name = joinWith '_' p.path
  primaryKey_eq : own.primaryKey = t.effectiveKey?
  required_eq : own.required = t.required
  columns_eq : own.columns = (p.remaining t).filterMap flatColumn?
  /-- A table at the root has no references but its own. -/
  root : p.parent = none → (own.references.map fun r => (r.name, r.pointer)) = t.properties.filterMap declaredReference?
  /-- A nested table has exactly one reference of the name of the link, which leads to the key of the table around. -/
  link : ∀ parent ∈ p.parent,
    (own.references.filter (·.name = parent.linkName)).map (·.pointer) = [parent.linkPointer]
  /-- All its other references are its own. -/
  others : ∀ parent ∈ p.parent, ((own.references.filter (·.name ≠ parent.linkName)).map fun r => (r.name, r.pointer)) =
    (p.remaining t).filterMap declaredReference?
  oneToMany_eq : ∀ r ∈ own.references, r.oneToMany = p.isArray

mutual

/-- A walk over a table at a place, with the flat tables it comes to: those below the table, and its own. -/
inductive Walk : Place → Shape.Table → List Table → Prop where
  | table {p : Place} {t : Shape.Table} {below : List Table} {own : Table}
    (hbelow : WalkBelow p t (p.remaining t) below) (hown : StandsFor p t own) : Walk p t (below ++ [own])

/-- A walk over properties of a table at a place, one after another. -/
inductive WalkBelow : Place → Shape.Table → List (String × Shape.Column) → List Table → Prop where
  | nil {p : Place} {t : Shape.Table} : WalkBelow p t [] []
  | ref {p : Place} {t : Shape.Table} {name pointer : String} {rest : List (String × Shape.Column)}
    {others : List Table} (hrest : WalkBelow p t rest others) :
    WalkBelow p t ((name, .ref pointer) :: rest) others
  | value {p : Place} {t : Shape.Table} {name : String} {column : Shape.ValueColumn}
    {rest : List (String × Shape.Column)} {others : List Table} (hrest : WalkBelow p t rest others) :
    WalkBelow p t ((name, .value column) :: rest) others
  | table {p : Place} {t nested : Shape.Table} {name : String} {rest : List (String × Shape.Column)}
    {first others : List Table} (hfirst : Walk (p.inside t name false) nested first)
    (hrest : WalkBelow p t rest others) : WalkBelow p t ((name, .table nested) :: rest) (first ++ others)
  /-- The items of an array are a table, or are put in one. -/
  | array {p : Place} {t : Shape.Table} {name : String} {items : Shape.Items} {rest : List (String × Shape.Column)}
    {first others : List Table} (hfirst : Walk (p.inside t name true) (itemTable items) first)
    (hrest : WalkBelow p t rest others) : WalkBelow p t ((name, .array items) :: rest) (first ++ others)

end

/-! ### Links -/

/-- The reference to the key of a table is the back reference of what is nested in it. -/
theorem backReference_to_eq {p : Parent} (h : p.path ≠ []) :
    BackReference.to p.path p.table.joinKey = ⟨p.linkName, p.linkPointer⟩ := by
  have hname : Shape.qualifiedName (p.path ++ [p.table.joinKey]) = p.linkName := joinWith_concat h _
  have hpointer : Shape.Pointer.build p.path p.table.joinKey = p.linkPointer := joinWith_cons (by simp) _
  rw [BackReference.to, hname, hpointer]

/-- Without what has its name, a back reference leaves the properties as they are. -/
theorem filter_putBack (back : BackReference) (properties : List (String × Shape.Column)) :
    (putBack back properties).filter (·.1 ≠ back.name) = properties.filter (·.1 ≠ back.name) := by
  induction properties with
  | nil => simp [putBack]
  | cons property rest ih =>
    obtain ⟨name, column⟩ := property
    rw [putBack]
    split
    · next h => simp [h]
    · next h => simp only [List.filter_cons, ih]

theorem filter_flatReferences (properties : List (String × Shape.Column)) (schemaPath : List String) (oneToMany : Bool)
    (s : String) : (properties.filterMap (flatReference? schemaPath oneToMany)).filter (·.name ≠ s) =
      (properties.filter (·.1 ≠ s)).filterMap (flatReference? schemaPath oneToMany) := by
  rw [List.filter_filterMap, List.filterMap_filter]
  refine List.filterMap_congr fun property _ => ?_
  obtain ⟨name, column⟩ := property
  cases column <;> simp [flatReference?, Option.filter]

theorem map_flatReferences (properties : List (String × Shape.Column)) (schemaPath : List String) (oneToMany : Bool) :
    ((properties.filterMap (flatReference? schemaPath oneToMany)).map fun r => (r.name, r.pointer)) =
      properties.filterMap declaredReference? := by
  rw [List.map_filterMap]
  refine List.filterMap_congr fun property _ => ?_
  obtain ⟨name, column⟩ := property
  cases column <;> rfl

/-! ### Nodes at places -/

/-- A node that is at a place. -/
structure Node.At (n : Node) (p : Place) : Prop where
  path_eq : p.path = n.way.path
  path_ne_nil : p.path ≠ []
  isArray_eq : p.isArray = n.way.oneToMany
  back_eq : n.way.back = p.parent.map fun parent => ⟨parent.linkName, parent.linkPointer⟩

variable {n : Node} {p : Place}

theorem Node.At.inside (h : n.At p) {name : String} {column : Shape.Column} {c : Node}
    (hc : Node.child? n.way n.table.joinKey (name, column) = some c) :
    c.At (p.inside n.table name c.way.oneToMany) := by
  have hback : c.way.back = some ⟨(Parent.mk p.path n.table).linkName, (Parent.mk p.path n.table).linkPointer⟩ := by
    rw [← backReference_to_eq (p := ⟨p.path, n.table⟩) h.path_ne_nil, h.path_eq]
    cases column <;> cases hc <;> rfl
  have hpath : c.way.path = p.path ++ [name] := by
    rw [h.path_eq]
    cases column <;> cases hc <;> rfl
  exact ⟨hpath.symm, by simp [Place.inside], rfl, hback⟩

theorem Node.At.counts_iff (h : n.At p) {property : String × Shape.Column} :
    p.counts property ↔ n.way.back.map (·.name) ≠ some property.1 := by
  rw [Place.counts, decide_eq_true_iff, h.back_eq, Option.map_map]
  rfl

/-- At the root every property counts. -/
theorem Place.remaining_of_root (hparent : p.parent = none) (t : Shape.Table) : p.remaining t = t.properties :=
  List.filter_eq_self.mpr fun property _ => by simp [Place.counts, hparent]

theorem Node.At.back_of_parent (h : n.At p) {parent : Parent} (hparent : p.parent = some parent) :
    n.way.back = some ⟨parent.linkName, parent.linkPointer⟩ := by
  rw [h.back_eq, hparent]
  rfl

/-- The properties that count in a nested table are those that its flat table is made of, without the link. -/
theorem Node.At.filter_properties (h : n.At p) {parent : Parent} (hparent : p.parent = some parent) :
    n.properties.filter (·.1 ≠ parent.linkName) = p.remaining n.table := by
  have hcounts : p.counts = fun property => decide (property.1 ≠ parent.linkName) := by
    funext property
    simp [Place.counts, hparent, eq_comm]
  rw [Node.properties, h.back_of_parent hparent, withBack, Place.remaining, hcounts]
  exact filter_putBack ⟨parent.linkName, parent.linkPointer⟩ n.table.properties

/-- What has the name of the link is a reference, so that the columns of a flat table are properties that count. -/
theorem Node.At.columns_eq (h : n.At p) (hdistinct : n.Distinct) :
    n.flat.columns = (p.remaining n.table).filterMap flatColumn? := by
  have hflat : n.flat.columns = n.properties.filterMap flatColumn? := rfl
  cases hparent : p.parent with
  | none =>
    rw [hflat, Place.remaining_of_root hparent, Node.properties, h.back_eq, hparent]
    rfl
  | some parent =>
    rw [hflat, ← h.filter_properties hparent, List.filterMap_filter]
    refine List.filterMap_congr fun property hp => ?_
    rcases (Node.mem_properties_iff hdistinct (h.back_of_parent hparent)).mp hp with rfl | ⟨-, hne⟩
    · simp [flatColumn?]
    · simp [hne]

/-- The flat table of a node stands for the table of the node. -/
theorem Node.At.standsFor (h : n.At p) (hdistinct : n.Distinct) : StandsFor p n.table n.flat where
  name_eq := by
    rw [h.path_eq]
    rfl
  primaryKey_eq := rfl
  required_eq := rfl
  columns_eq := h.columns_eq hdistinct
  root hparent := by
    have hproperties : n.properties = n.table.properties := by
      rw [Node.properties, h.back_eq, hparent]
      rfl
    rw [← hproperties]
    exact map_flatReferences _ _ _
  link parent hparent := by
    rw [filter_eq_singleton (f := Reference.name) (List.nodup_append.mp hdistinct.flat_names).2.1
      (Node.mem_references_of_back hdistinct (h.back_of_parent hparent))]
    rfl
  others parent hparent := by
    have hflat : n.flat.references = n.properties.filterMap (flatReference? n.way.schemaPath n.way.oneToMany) := rfl
    rw [hflat, filter_flatReferences, map_flatReferences, h.filter_properties hparent]
  oneToMany_eq r hr := by
    obtain ⟨name, pointer, -, rfl⟩ := mem_flatReferences_iff.mp hr
    exact h.isArray_eq.symm

/-! ### Walks -/

theorem flatMap_flatten_cons {c : Node} (hc : c.way.kept) {cs : List Node} :
    ((c :: cs).filter (·.way.kept)).flatMap Node.flatten =
      c.flatten ++ (cs.filter (·.way.kept)).flatMap Node.flatten := by
  simp [hc]

/-- Walks over the children of a node that are kept make up a walk over the properties that count. -/
theorem Node.At.walkBelow (h : n.At p) (hkept : n.way.kept) {properties : List (String × Shape.Column)}
    (hwalk : ∀ property ∈ properties, ∀ c, Node.child? n.way n.table.joinKey property = some c → c.way.kept →
      Walk (p.inside n.table property.1 c.way.oneToMany) c.table c.flatten) :
    WalkBelow p n.table (properties.filter p.counts)
      (((properties.filterMap (Node.child? n.way n.table.joinKey)).filter (·.way.kept)).flatMap Node.flatten) := by
  induction properties with
  | nil => exact .nil
  | cons property rest ih =>
    obtain ⟨name, column⟩ := property
    obtain ⟨hfirst, hrest⟩ := List.forall_mem_cons.mp hwalk
    have ih := ih hrest
    have hkeptChild : ∀ c, Node.child? n.way n.table.joinKey (name, column) = some c →
        c.way.kept = p.counts (name, column) := by
      intro c hc
      rw [Node.kept_of_child? hc, hkept, Bool.true_and, Bool.eq_iff_iff, h.counts_iff, decide_eq_true_iff]
    rw [List.filterMap_cons]
    cases hcounts : p.counts (name, column) with
    | false =>
      rw [List.filter_cons_of_neg (by simp [hcounts])]
      cases hc : Node.child? n.way n.table.joinKey (name, column) with
      | none => exact ih
      | some c =>
        have hlost : c.way.kept = false := (hkeptChild c hc).trans hcounts
        simpa [hlost] using ih
    | true =>
      rw [List.filter_cons_of_pos hcounts]
      cases column with
      | ref pointer => exact .ref ih
      | value column => exact .value ih
      | table t =>
        have hc := (hkeptChild _ rfl).trans hcounts
        have h := WalkBelow.table (hfirst _ rfl hc) ih
        rw [← flatMap_flatten_cons hc] at h
        exact h
      | array items =>
        have hc := (hkeptChild _ rfl).trans hcounts
        have h := WalkBelow.array (hfirst _ rfl hc) ih
        rw [← flatMap_flatten_cons hc] at h
        exact h

/-- A node is flattened by a walk over it. -/
theorem walk_flatten : ∀ n : Node, ∀ p, n.At p → n.way.kept → (∀ m ∈ n.subtree, m.Distinct) →
    Walk p n.table n.flatten := by
  apply Node.induction
  intro n ih p hat hkept hdistinct
  rw [Node.flatten_eq_children n hkept]
  refine .table (hat.walkBelow hkept ?_) (hat.standsFor (hdistinct n n.mem_subtree_self))
  rintro ⟨name, column⟩ hproperty c hc hkeptChild
  have hmem : c ∈ n.children := List.mem_filterMap.mpr ⟨_, hproperty, hc⟩
  exact ih c hmem _ (hat.inside hc) hkeptChild fun m hm =>
    hdistinct m (Node.subtree_subset_of_mem_children hmem hm)

/-- The flat tables of a shape that is read are those that walks over its tables come to, one after another. -/
theorem flatten_walks {document : Value} {db : Database} (h : readShape document = .ok db) :
    ∃ lists, List.Forall₂ (fun (name, t) tables => Walk (.root name) t tables) db.tables lists ∧
      flatten db = lists.flatten := by
  have hdistinct := distinct_of_read (readShape_eq_ok_iff.mp h)
  have hwalk : ∀ q ∈ db.tables, Walk (.root q.1) q.2 (Node.flatten ⟨.root q.1, q.2⟩) := by
    intro q hq
    refine walk_flatten ⟨.root q.1, q.2⟩ _ ⟨rfl, by simp [Place.root], rfl, rfl⟩ rfl fun m hm => ?_
    exact hdistinct m (mem_nodes_iff.mpr ⟨_, List.mem_map_of_mem hq, hm⟩)
  refine ⟨db.tables.map fun q => Node.flatten ⟨.root q.1, q.2⟩, ?_, ?_⟩
  · rw [List.forall₂_map_right_iff, List.forall₂_same]
    exact hwalk
  · rw [← List.flatMap_def]
    rfl

theorem flatten_walks_blogShape : readShape blog = .ok blogShape ∧
    ∃ lists, List.Forall₂ (fun (name, t) tables => Walk (.root name) t tables) blogShape.tables lists ∧
      flatten blogShape = lists.flatten := by
  have hread : readShape blog = .ok blogShape := rfl
  exact ⟨hread, flatten_walks hread⟩

end ShapeTables.Flat
