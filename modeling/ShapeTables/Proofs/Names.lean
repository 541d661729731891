import Mathlib.Data.List.Induction
import Mathlib.Data.List.Nodup
import ShapeTables.Proofs.Nodes
import ShapeTables.Proofs.ShapeReading

/-! Names that differ. The properties of a table that is read have different names, and so have the columns and
references of a flat table: a back reference takes the place of the property of its name, if there is one. -/
namespace ShapeTables.Shape

variable {α : Type}

theorem mem_putNamed {things : List (String × α)} {name : String} {x : α} {p : String × α}
    (h : p ∈ putNamed things name x) : p = (name, x) ∨ p ∈ things := by
  induction things with
  | nil => simpa [putNamed] using h
  | cons q rest ih =>
    obtain ⟨n, y⟩ := q
    rw [putNamed] at h
    split at h
    · next hn => rcases List.mem_cons.mp h with rfl | h <;> simp [*]
    · rcases List.mem_cons.mp h with rfl | h
      · simp
      · rcases ih h with rfl | h <;> simp [*]

theorem map_fst_putNamed (things : List (String × α)) (name : String) (x : α) :
    (putNamed things name x).map Prod.fst =
      if name ∈ things.map Prod.fst then things.map Prod.fst else things.map Prod.fst ++ [name] := by
  induction things with
  | nil => simp [putNamed]
  | cons q rest ih =>
    obtain ⟨n, y⟩ := q
    by_cases hn : n = name
    · simp [putNamed, hn]
    · rw [putNamed, if_neg hn, List.map_cons, ih, List.map_cons]
      split <;> simp_all [eq_comm]

theorem nodup_putNamed {things : List (String × α)} (h : (things.map Prod.fst).Nodup) (name : String) (x : α) :
    ((putNamed things name x).map Prod.fst).Nodup := by
  rw [map_fst_putNamed]
  split
  · exact h
  · next hname =>
    rw [← List.concat_eq_append]
    exact (List.nodup_concat _ _).mpr ⟨hname, h⟩

theorem mem_putNamed_iff {things : List (String × α)} (h : (things.map Prod.fst).Nodup) {name : String} {x : α}
    {p : String × α} : p ∈ putNamed things name x ↔ p = (name, x) ∨ p ∈ things ∧ p.1 ≠ name := by
  induction things with
  | nil => simp [putNamed]
  | cons q rest ih =>
    obtain ⟨n, y⟩ := q
    rw [List.map_cons, List.nodup_cons] at h
    have ih := ih h.2
    by_cases hn : n = name
    · have hrest : p ∈ rest → p.1 ≠ name := fun hp heq =>
        h.1 (List.mem_map.mpr ⟨p, hp, heq.trans hn.symm⟩)
      rw [putNamed, if_pos hn]
      grind
    · rw [putNamed, if_neg hn]
      grind

private theorem foldl_putNamed_nodup (things found : List (String × α)) (h : (found.map Prod.fst).Nodup) :
    ((things.foldl (fun found p => putNamed found p.1 p.2) found).map Prod.fst).Nodup := by
  induction things generalizing found with
  | nil => exact h
  | cons p rest ih => exact ih _ (nodup_putNamed h p.1 p.2)

private theorem mem_foldl_putNamed (things found : List (String × α)) {p : String × α}
    (h : p ∈ things.foldl (fun found p => putNamed found p.1 p.2) found) : p ∈ things ∨ p ∈ found := by
  induction things generalizing found with
  | nil => exact .inr h
  | cons q rest ih =>
    rcases ih _ h with h | h
    · exact .inl (List.mem_cons_of_mem _ h)
    · rcases mem_putNamed h with rfl | h
      · exact .inl List.mem_cons_self
      · exact .inr h

/-- Named things have each name once. -/
theorem named_nodup (things : List (String × α)) : ((named things).map Prod.fst).Nodup :=
  foldl_putNamed_nodup things [] List.nodup_nil

theorem mem_of_mem_named {things : List (String × α)} {p : String × α} (h : p ∈ named things) : p ∈ things := by
  simpa using mem_foldl_putNamed things [] h

/-- A thing with a new name is put at the end. -/
theorem putNamed_of_not_mem {things : List (String × α)} {name : String} {x : α} (h : name ∉ things.map Prod.fst) :
    putNamed things name x = things ++ [(name, x)] := by
  induction things with
  | nil => rfl
  | cons p rest ih =>
    obtain ⟨hne, hrest⟩ := not_or.mp (mt List.mem_cons.mpr h)
    rw [putNamed, if_neg (Ne.symm hne), ih hrest]
    rfl

theorem named_concat {things : List (String × α)} {name : String} {x : α} (h : name ∉ things.map Prod.fst) :
    named (things ++ [(name, x)]) = named things ++ [(name, x)] := by
  have hput : named (things ++ [(name, x)]) = putNamed (named things) name x := by
    rw [named, List.foldl_append]
    rfl
  rw [hput, putNamed_of_not_mem]
  intro hmem
  obtain ⟨p, hp, rfl⟩ := List.mem_map.mp hmem
  exact h (List.mem_map_of_mem (mem_of_mem_named hp))

/-- Things of different names are left as they are. -/
theorem named_of_nodup {things : List (String × α)} (h : (things.map Prod.fst).Nodup) : named things = things := by
  induction things using List.reverseRecOn with
  | nil => rfl
  | append_singleton init p ih =>
    rw [List.map_append, List.map_singleton, ← List.concat_eq_append, List.nodup_concat] at h
    rw [named_concat h.1, ih h.2]

end ShapeTables.Shape

namespace ShapeTables.Flat

open Reading Shape

/-- Nodes whose properties have different names. -/
def Node.Distinct (n : Node) : Prop := (n.table.properties.map Prod.fst).Nodup

/-! ### Shapes that are read -/

/-- Tables of which all nodes have properties of different names, whatever the way to them. -/
def DistinctBelow (t : Shape.Table) : Prop := ∀ w : Way, ∀ n ∈ (Node.mk w t).subtree, n.Distinct

/-- Columns that hold no table but such ones. -/
def HoldsDistinct (column : Shape.Column) : Prop :=
  ∀ w key name c, Node.child? w key (name, column) = some c → DistinctBelow c.table

theorem distinctBelow_of_properties {t : Shape.Table} (hnames : (t.properties.map Prod.fst).Nodup)
    (hproperties : ∀ p ∈ t.properties, HoldsDistinct p.2) : DistinctBelow t := by
  intro w n hn
  rw [Node.subtree_eq, List.mem_append, List.mem_singleton, List.mem_flatMap] at hn
  rcases hn with ⟨c, hc, hn⟩ | rfl
  · obtain ⟨⟨name, column⟩, hp, hchild⟩ := List.mem_filterMap.mp hc
    exact hproperties _ hp w _ name c hchild c.way n hn
  · exact hnames

theorem distinctBelow_wrapper {column : Shape.Column} (h : HoldsDistinct column) :
    DistinctBelow (wrapper column) :=
  distinctBelow_of_properties (List.nodup_singleton _) (by simpa [wrapper] using h)

private theorem distinctBelow_of_read {members : List (Scalar × Value)} {t : Shape.Table}
    (h : assemble members (propertiesIn members) = .ok t)
    (hproperties : ∀ properties, member? members "properties" = some (.map properties) →
      ∀ m ∈ properties, ∀ column, Shape.readColumn m.2 = .ok column → HoldsDistinct column) :
    DistinctBelow t := by
  have hfound := properties_of_assemble h
  rw [propertiesIn_eq] at hfound
  obtain ⟨v, hv, hread⟩ := Option.map_eq_some_iff.mp hfound
  cases v with
  | map properties =>
    obtain ⟨columns, hcolumns, hnamed⟩ := map_eq_ok_iff.mp hread
    rw [readColumns_eq] at hcolumns
    refine distinctBelow_of_properties (hnamed ▸ named_nodup columns) fun p hp => ?_
    obtain ⟨m, hm, -, hcolumn⟩ := of_mem_readEntries hcolumns (mem_of_mem_named (hnamed ▸ hp))
    exact hproperties properties hv m hm p.2 hcolumn
  | _ => cases hread

/-- Columns and items are read with different names at every node. -/
theorem distinctBelow_of_readColumn (v : Value) :
    (∀ column, Shape.readColumn v = .ok column → HoldsDistinct column) ∧
      ∀ items, readItems v = .ok items → DistinctBelow (itemTable items) := by
  induction v using size_induction with
  | step v ih =>
    have htable : ∀ members t, v = .map members → assemble members (propertiesIn members) = .ok t →
        DistinctBelow t := by
      rintro members t rfl ht
      refine distinctBelow_of_read ht fun properties hproperties m hm => ?_
      exact (ih m.2 (Nat.lt_trans (sizeOf_lt_of_mem hm) (sizeOf_member?_lt hproperties))).1
    constructor
    · intro column hcolumn w key name c hc
      rcases readColumn_cases hcolumn with ⟨_, rfl⟩ | ⟨_, rfl⟩ | ⟨members, v', items, rfl, hv', hitems, rfl⟩ |
        ⟨members, t, hv, ht, rfl⟩
      · cases hc
      · cases hc
      · cases hc
        exact (ih v' (sizeOf_member?_lt hv')).2 items hitems
      · cases hc
        exact htable members t hv ht
    · intro items hitems
      rcases readItems_cases hitems with ⟨_, rfl⟩ | ⟨_, rfl⟩ | ⟨members, t, hv, ht, rfl⟩
      · exact distinctBelow_wrapper (by simp [HoldsDistinct, Node.child?])
      · exact distinctBelow_wrapper (by simp [HoldsDistinct, Node.child?])
      · exact htable members t hv ht

/-- The nodes of a shape that is read have properties of different names. -/
theorem distinct_of_read {document : Value} {db : Database} (h : Shape.read document = .ok db) :
    ∀ n ∈ nodes db, n.Distinct := by
  intro n hn
  obtain ⟨r, hr, hn⟩ := mem_nodes_iff.mp hn
  obtain ⟨⟨name, t⟩, ht, rfl⟩ := List.mem_map.mp hr
  obtain ⟨members, tables, found, -, -, hfound, hnamed⟩ := read_cases h
  obtain ⟨m, -, -, hm⟩ := of_mem_readEntries hfound (mem_of_mem_named (hnamed ▸ ht))
  obtain ⟨table, -, hread⟩ := readTable_cases hm
  have htable : DistinctBelow t := distinctBelow_of_read hread fun _ _ m' _ column hcolumn =>
    (distinctBelow_of_readColumn m'.2).1 column hcolumn
  exact htable _ n hn

/-! ### Flat tables -/

theorem putBack_eq_putNamed (back : BackReference) (properties : List (String × Shape.Column)) :
    putBack back properties = putNamed properties back.name (.ref back.pointer) := by
  induction properties with
  | nil => rfl
  | cons p rest ih => rw [putBack, ih]; rfl

/-- The properties that a flat table is made of. -/
def Node.properties (n : Node) : List (String × Shape.Column) := withBack n.way.back n.table.properties

theorem Node.Distinct.properties {n : Node} (h : n.Distinct) : (n.properties.map Prod.fst).Nodup := by
  unfold Node.properties withBack
  split
  · rw [putBack_eq_putNamed]
    exact nodup_putNamed h _ _
  · exact h

/-- The properties that the flat table of a nested node is made of: a back reference, and the properties of other
names. -/
theorem Node.mem_properties_iff {n : Node} (h : n.Distinct) {back : BackReference} (hback : n.way.back = some back)
    {p : String × Shape.Column} :
    p ∈ n.properties ↔ p = (back.name, .ref back.pointer) ∨ p ∈ n.table.properties ∧ p.1 ≠ back.name := by
  rw [Node.properties, hback, withBack, putBack_eq_putNamed]
  exact mem_putNamed_iff h

section Parts

variable {properties : List (String × Shape.Column)} {schemaPath : List String} {oneToMany : Bool}

/-- The flat column of a property with values. -/
def columnOf (name : String) (column : ValueColumn) : Column :=
  ⟨name, .ofValueType column.type, column.default, column.enum, column.description⟩

theorem mem_flatColumns_iff {c : Column} : c ∈ properties.filterMap flatColumn? ↔
    ∃ name column, (name, .value column) ∈ properties ∧ c = columnOf name column := by
  rw [List.mem_filterMap]
  constructor
  · rintro ⟨⟨name, column⟩, hp, hc⟩
    cases column with
    | value column => cases hc; exact ⟨name, column, hp, rfl⟩
    | _ => cases hc
  · rintro ⟨name, column, hp, rfl⟩
    exact ⟨_, hp, rfl⟩

theorem mem_flatReferences_iff {r : Reference} : r ∈ properties.filterMap (flatReference? schemaPath oneToMany) ↔
    ∃ name pointer, (name, .ref pointer) ∈ properties ∧ r = ⟨name, pointer, schemaPath, oneToMany⟩ := by
  rw [List.mem_filterMap]
  constructor
  · rintro ⟨⟨name, column⟩, hp, hr⟩
    cases column with
    | ref pointer => cases hr; exact ⟨name, pointer, hp, rfl⟩
    | _ => cases hr
  · rintro ⟨name, pointer, hp, rfl⟩
    exact ⟨_, hp, rfl⟩

private theorem mem_names {name : String}
    (h : name ∈ (properties.filterMap flatColumn?).map (·.name) ++
      (properties.filterMap (flatReference? schemaPath oneToMany)).map (·.name)) :
    name ∈ properties.map Prod.fst := by
  rcases List.mem_append.mp h with h | h
  · obtain ⟨c, hc, rfl⟩ := List.mem_map.mp h
    obtain ⟨name, column, hp, rfl⟩ := mem_flatColumns_iff.mp hc
    exact List.mem_map_of_mem hp
  · obtain ⟨r, hr, rfl⟩ := List.mem_map.mp h
    obtain ⟨name, pointer, hp, rfl⟩ := mem_flatReferences_iff.mp hr
    exact List.mem_map_of_mem hp

/-- Properties of different names become columns and references of different names. -/
theorem names_nodup (h : (properties.map Prod.fst).Nodup) :
    ((properties.filterMap flatColumn?).map (·.name) ++
      (properties.filterMap (flatReference? schemaPath oneToMany)).map (·.name)).Nodup := by
  induction properties with
  | nil => exact List.nodup_nil
  | cons p rest ih =>
    obtain ⟨name, column⟩ := p
    obtain ⟨hname, hrest⟩ := List.nodup_cons.mp h
    have hfresh : name ∉ (rest.filterMap flatColumn?).map (·.name) ++
        (rest.filterMap (flatReference? schemaPath oneToMany)).map (·.name) := fun hmem => hname (mem_names hmem)
    cases column with
    | value column => exact List.nodup_cons.mpr ⟨hfresh, ih hrest⟩
    | ref pointer => exact List.nodup_middle.mpr (List.nodup_cons.mpr ⟨hfresh, ih hrest⟩)
    | table t => exact ih hrest
    | array items => exact ih hrest

end Parts

/-- The columns and references of the flat table of a node have different names. -/
theorem Node.Distinct.flat_names {n : Node} (h : n.Distinct) :
    (n.flat.columns.map (·.name) ++ n.flat.references.map (·.name)).Nodup :=
  names_nodup h.properties

end ShapeTables.Flat
