import Mathlib.Data.List.Basic
import ShapeTables.Flat.Flatten

/-! The nodes of a shape: its tables, and for each array of anything else the table that holds its items, each
with the way that leads to it. A node has children, and all nodes are found by going from the tables at the
root to the children again and again. Flattening makes one flat table of each node that is kept, in the order
of the nodes; the nodes that are not kept lie at or below a property that has given way to a back reference. -/
namespace ShapeTables.Flat

open Shape (Items Database)

/-- The way to a node. -/
structure Way where
  path : List String
  /-- The steps in the document to the properties of the node. -/
  schemaPath : List String
  back : Option BackReference
  oneToMany : Bool
  /-- Whether no property on the way has given way to a back reference. -/
  kept : Bool

def Way.root (name : String) : Way := ⟨[name], ["properties", name, "properties"], none, false, true⟩

/-- The way on from a table with a join key to what a property of it holds. -/
def Way.to (w : Way) (key name : String) (oneToMany : Bool) : Way where
  path := w.path ++ [name]
  schemaPath := w.schemaPath ++ [name] ++ if oneToMany then ["items", "properties"] else ["properties"]
  back := some (.to w.path key)
  oneToMany := oneToMany
  kept := w.kept && decide (w.back.map (·.name) ≠ some name)

structure Node where
  way : Way
  table : Shape.Table

/-- The table that an array becomes. -/
def itemTable : Items → Shape.Table
  | .ref pointer => wrapper (.ref pointer)
  | .value column => wrapper (.value column)
  | .table t => t

namespace Node

/-- The flat table of a node. -/
def flat (n : Node) : Table := flatTable n.way.path n.way.schemaPath n.way.back n.way.oneToMany n.table

/-- The node that a property holds, if it holds one. -/
def child? (w : Way) (key : String) : String × Shape.Column → Option Node
  | (_, .ref _) | (_, .value _) => none
  | (name, .table t) => some ⟨w.to key name false, t⟩
  | (name, .array items) => some ⟨w.to key name true, itemTable items⟩

def children (n : Node) : List Node := n.table.properties.filterMap (child? n.way n.table.joinKey)

end Node

mutual

/-- The nodes at and below the end of a way, each of them right after the nodes below it. -/
def tableNodes (w : Way) : Shape.Table → List Node
  | ⟨properties, required, primaryKey⟩ =>
    propertyNodes w (Shape.TableOf.joinKey ⟨properties, required, primaryKey⟩) properties ++
      [⟨w, ⟨properties, required, primaryKey⟩⟩]

def propertyNodes (w : Way) (key : String) : List (String × Shape.Column) → List Node
  | [] => []
  | (name, column) :: rest => columnNodes w key name column ++ propertyNodes w key rest

def columnNodes (w : Way) (key name : String) : Shape.Column → List Node
  | .ref _ => []
  | .value _ => []
  | .table t => tableNodes (w.to key name false) t
  | .array items => itemNodes (w.to key name true) items

def itemNodes (w : Way) : Items → List Node
  | .ref pointer => [⟨w, wrapper (.ref pointer)⟩]
  | .value column => [⟨w, wrapper (.value column)⟩]
  | .table t => tableNodes w t

end

/-- A node and the nodes below it. -/
def Node.subtree (n : Node) : List Node := tableNodes n.way n.table

def roots (db : Database) : List Node := db.tables.map fun (name, t) => ⟨.root name, t⟩

/-- The nodes of a shape, each right after those below it. -/
def nodes (db : Database) : List Node := (roots db).flatMap Node.subtree

/-! ### Going from nodes to their children -/

theorem itemNodes_eq (w : Way) (items : Items) : itemNodes w items = tableNodes w (itemTable items) := by
  cases items <;> rfl

theorem columnNodes_eq (w : Way) (key name : String) (column : Shape.Column) :
    columnNodes w key name column = ((Node.child? w key (name, column)).map Node.subtree).getD [] := by
  cases column with
  | ref pointer => rfl
  | value column => rfl
  | table t => rfl
  | array items => exact itemNodes_eq _ items

theorem propertyNodes_eq (w : Way) (key : String) (properties : List (String × Shape.Column)) :
    propertyNodes w key properties = (properties.filterMap (Node.child? w key)).flatMap Node.subtree := by
  induction properties with
  | nil => rfl
  | cons property rest ih =>
    obtain ⟨name, column⟩ := property
    rw [propertyNodes, ih, columnNodes_eq, List.filterMap_cons]
    cases Node.child? w key (name, column) <;> rfl

theorem Node.subtree_eq (n : Node) : n.subtree = n.children.flatMap Node.subtree ++ [n] := by
  obtain ⟨w, properties, required, primaryKey⟩ := n
  rw [subtree, tableNodes, propertyNodes_eq]
  rfl

section Induction

variable {P : Node → Prop}

private theorem holds_of_childless (step : ∀ n, (∀ c ∈ n.children, P c) → P n) {n : Node}
    (h : n.children = []) : P n :=
  step n fun c hc => by simp [h] at hc

-- The recursion follows the columns, since the table around the items of an array is no part of the array.
mutual

private theorem holds_table (step : ∀ n, (∀ c ∈ n.children, P c) → P n) (w : Way) :
    ∀ t : Shape.Table, P ⟨w, t⟩
  | ⟨properties, required, primaryKey⟩ => by
    apply step
    intro c hc
    obtain ⟨property, hp, hchild⟩ := List.mem_filterMap.mp hc
    exact holds_properties step w _ properties property hp c hchild

private theorem holds_properties (step : ∀ n, (∀ c ∈ n.children, P c) → P n) (w : Way) (key : String) :
    ∀ properties : List (String × Shape.Column), ∀ property ∈ properties, ∀ c,
      Node.child? w key property = some c → P c
  | [], _, hp, _, _ => by simp at hp
  | (name, column) :: rest, property, hp, c, hc => by
    rcases List.mem_cons.mp hp with rfl | hp
    · exact holds_column step w key name column c hc
    · exact holds_properties step w key rest property hp c hc

private theorem holds_column (step : ∀ n, (∀ c ∈ n.children, P c) → P n) (w : Way) (key name : String) :
    ∀ (column : Shape.Column) (c : Node), Node.child? w key (name, column) = some c → P c
  | .ref _, _, hc => by cases hc
  | .value _, _, hc => by cases hc
  | .table t, _, hc => by cases hc; exact holds_table step _ t
  | .array items, _, hc => by cases hc; exact holds_items step _ items

private theorem holds_items (step : ∀ n, (∀ c ∈ n.children, P c) → P n) (w : Way) :
    ∀ items : Items, P ⟨w, itemTable items⟩
  | .ref _ => holds_of_childless step rfl
  | .value _ => holds_of_childless step rfl
  | .table t => holds_table step w t

end

/-- What holds of a node whenever it holds of all its children holds of every node. -/
theorem Node.induction (step : ∀ n, (∀ c ∈ n.children, P c) → P n) (n : Node) : P n :=
  holds_table step n.way n.table

end Induction

theorem Node.mem_subtree_self (n : Node) : n ∈ n.subtree := by
  rw [subtree_eq]
  exact List.mem_append_right _ (List.mem_singleton_self n)

theorem Node.subtree_subset_of_mem_children {n c : Node} (h : c ∈ n.children) : c.subtree ⊆ n.subtree := by
  intro m hm
  rw [subtree_eq]
  exact List.mem_append_left _ (List.mem_flatMap.mpr ⟨c, h, hm⟩)

/-- What the children of a node inherit holds of every node below one of which it holds. -/
theorem Node.of_mem_subtree {P : Node → Prop} (inherit : ∀ n, P n → ∀ c ∈ n.children, P c) :
    ∀ n : Node, P n → ∀ m ∈ n.subtree, P m := by
  apply Node.induction
  intro n ih hn m hm
  rw [subtree_eq, List.mem_append, List.mem_flatMap, List.mem_singleton] at hm
  rcases hm with ⟨c, hc, hm⟩ | rfl
  · exact ih c hc (inherit n hn c hc) m hm
  · exact hn

theorem Node.children_subset_subtree {n m : Node} (hm : m ∈ n.subtree) : m.children ⊆ n.subtree := by
  -- the subtree of each node below `n` lies in that of `n`
  have hsub : m.subtree ⊆ n.subtree :=
    Node.of_mem_subtree (P := fun m => m.subtree ⊆ n.subtree)
      (fun k hk c hc => List.Subset.trans (subtree_subset_of_mem_children hc) hk) n (List.Subset.refl _) m hm
  intro c hc
  exact hsub (subtree_subset_of_mem_children hc c.mem_subtree_self)

variable {db : Database}

theorem mem_nodes_iff {n : Node} : n ∈ nodes db ↔ ∃ r ∈ roots db, n ∈ r.subtree := List.mem_flatMap

theorem children_subset_nodes {n : Node} (h : n ∈ nodes db) : n.children ⊆ nodes db := by
  obtain ⟨r, hr, hn⟩ := mem_nodes_iff.mp h
  intro c hc
  exact mem_nodes_iff.mpr ⟨r, hr, Node.children_subset_subtree hn hc⟩

/-- What holds at the root and what children inherit holds of every node of a shape. -/
theorem of_mem_nodes {P : Node → Prop} (atRoot : ∀ r ∈ roots db, P r)
    (inherit : ∀ n, P n → ∀ c ∈ n.children, P c) : ∀ n ∈ nodes db, P n := by
  intro n hn
  obtain ⟨r, hr, hn⟩ := mem_nodes_iff.mp hn
  exact Node.of_mem_subtree inherit r (atRoot r hr) n hn

/-- A node is at the root, or it is the child of a node. -/
theorem mem_nodes_cases : ∀ c ∈ nodes db, c ∈ roots db ∨ ∃ n ∈ nodes db, c ∈ n.children := by
  have hcases : ∀ c ∈ nodes db, c ∈ nodes db ∧ (c ∈ roots db ∨ ∃ n ∈ nodes db, c ∈ n.children) := by
    apply of_mem_nodes
    · exact fun r hr => ⟨mem_nodes_iff.mpr ⟨r, hr, r.mem_subtree_self⟩, .inl hr⟩
    · exact fun n hn c hc => ⟨children_subset_nodes hn.1 hc, .inr ⟨n, hn.1, hc⟩⟩
  exact fun c hc => (hcases c hc).2

/-! ### Flattening -/

private theorem flatMap_filter_eq {α β : Type} {p : α → Bool} {f g : α → List β} {xs : List α}
    (htrue : ∀ x ∈ xs, p x → f x = g x) (hfalse : ∀ x ∈ xs, p x = false → g x = []) :
    (xs.filter p).flatMap f = xs.flatMap g := by
  induction xs with
  | nil => rfl
  | cons x xs ih =>
    have ih := ih (fun y hy => htrue y (List.mem_cons_of_mem _ hy))
      (fun y hy => hfalse y (List.mem_cons_of_mem _ hy))
    cases hx : p x with
    | true => simp [hx, ih, htrue x List.mem_cons_self hx]
    | false => simp [hx, ih, hfalse x List.mem_cons_self hx]

namespace Node

/-- The flat tables of a node and of what is nested in it. -/
def flatten (n : Node) : List Table :=
  flattenTable n.way.path n.way.schemaPath n.way.back n.way.oneToMany n.table

theorem kept_of_child? {w : Way} {key name : String} {column : Shape.Column} {c : Node}
    (h : child? w key (name, column) = some c) :
    c.way.kept = (w.kept && decide (w.back.map (·.name) ≠ some name)) := by
  cases column <;> cases h <;> rfl

theorem kept_of_mem_children {n c : Node} (h : c ∈ n.children) (hc : c.way.kept) : n.way.kept := by
  obtain ⟨⟨name, column⟩, -, hchild⟩ := List.mem_filterMap.mp h
  rw [kept_of_child? hchild] at hc
  exact (Bool.and_eq_true_iff.mp hc).1

theorem filter_kept_subtree {n : Node} (h : n.way.kept = false) : n.subtree.filter (·.way.kept) = [] := by
  rw [List.filter_eq_nil_iff]
  refine of_mem_subtree (P := fun m => ¬m.way.kept) ?_ n (by simp [h])
  exact fun m hm c hc hkept => hm (kept_of_mem_children hc hkept)

private theorem flattenItems_eq (w : Way) (back : BackReference) (hback : w.back = some back)
    (hmany : w.oneToMany) (items : Items) :
    flattenItems w.path w.schemaPath back items = flatten ⟨w, itemTable items⟩ := by
  cases items with
  | ref pointer =>
    simp [flattenItems, flatten, itemTable, wrapper, flattenTable, flattenProperties, flattenColumn, hback, hmany]
  | value column =>
    simp [flattenItems, flatten, itemTable, wrapper, flattenTable, flattenProperties, flattenColumn, hback, hmany]
  | table t => rw [flattenItems, flatten, hback, hmany]; rfl

private theorem flattenColumn_eq (w : Way) (key name : String) (column : Shape.Column) :
    flattenColumn (w.path ++ [name]) (w.schemaPath ++ [name]) (.to w.path key) column =
      ((child? w key (name, column)).map flatten).getD [] := by
  cases column with
  | ref pointer => rfl
  | value column => rfl
  | table t => rfl
  | array items => exact flattenItems_eq (w.to key name true) _ rfl rfl items

private theorem flattenProperties_eq (w : Way) (hw : w.kept) (key : String)
    (properties : List (String × Shape.Column)) :
    flattenProperties w.path w.schemaPath (w.back.map (·.name)) (.to w.path key) properties =
      ((properties.filterMap (child? w key)).filter (·.way.kept)).flatMap flatten := by
  induction properties with
  | nil => rfl
  | cons property rest ih =>
    obtain ⟨name, column⟩ := property
    rw [flattenProperties, ih, flattenColumn_eq, List.filterMap_cons]
    cases hchild : child? w key (name, column) with
    | none => simp
    | some c =>
      have hc : c.way.kept = decide (w.back.map (·.name) ≠ some name) := by
        rw [kept_of_child? hchild, hw, Bool.true_and]
      by_cases hname : w.back.map (·.name) = some name <;> simp [hc, hname]

/-- A node is flattened to the flat tables of its children that are kept, and its own after them. -/
theorem flatten_eq_children (n : Node) (h : n.way.kept) :
    n.flatten = (n.children.filter (·.way.kept)).flatMap flatten ++ [n.flat] := by
  obtain ⟨w, properties, required, primaryKey⟩ := n
  rw [flatten, flattenTable, flattenProperties_eq w h]
  rfl

theorem flatten_eq : ∀ n : Node, n.way.kept → n.flatten = (n.subtree.filter (·.way.kept)).map flat := by
  apply Node.induction
  intro n ih hn
  have hchildren : (n.children.filter (·.way.kept)).flatMap flatten =
      n.children.flatMap fun c => (c.subtree.filter (·.way.kept)).map flat :=
    flatMap_filter_eq ih fun c _ hc => by rw [filter_kept_subtree hc, List.map_nil]
  rw [flatten_eq_children n hn, hchildren, subtree_eq]
  simp [List.filter_flatMap, List.map_flatMap, hn]

end Node

/-- The flat tables of a shape are those of its kept nodes. -/
theorem flatten_eq_map_nodes (db : Database) : flatten db = ((nodes db).filter (·.way.kept)).map Node.flat := by
  have hroot : ∀ r ∈ roots db, r.flatten = (r.subtree.filter (·.way.kept)).map Node.flat := by
    intro r hr
    obtain ⟨table, -, rfl⟩ := List.mem_map.mp hr
    exact Node.flatten_eq _ rfl
  calc flatten db = (roots db).flatMap Node.flatten := by rw [roots, List.flatMap_map]; rfl
    _ = (roots db).flatMap fun r => (r.subtree.filter (·.way.kept)).map Node.flat := List.flatMap_congr hroot
    _ = ((nodes db).filter (·.way.kept)).map Node.flat := by
      rw [nodes, List.filter_flatMap, List.map_flatMap]

theorem flat_mem_flatten {n : Node} (hn : n ∈ nodes db) (hkept : n.way.kept) : n.flat ∈ flatten db := by
  rw [flatten_eq_map_nodes]
  exact List.mem_map_of_mem (List.mem_filter.mpr ⟨hn, hkept⟩)

end ShapeTables.Flat
