import ShapeTables.Proofs.Answers
import ShapeTables.Proofs.MemberOrder
import ShapeTables.Proofs.Resolution
import ShapeTables.Proofs.Script
import ShapeTables.Proofs.Validation

/-! Compiling shapes whose properties are in another order. The rules for shapes and the key of a table are about
properties by their names, the reference to the table around takes the place of the property of its name wherever it
stands, and names and pointers lead to the one table and the one column of their name. So two shapes that are equal up
to the order of properties keep the rules both or neither, and they are compiled to the same tables up to order. -/
namespace ShapeTables

namespace Shape

/-! ### Rules -/

/-- Columns that are the same to the rules for tables. -/
def Column.SameToRules (a b : Column) : Prop := a.keyProblem? = b.keyProblem? ∧ a.nestedType? = b.nestedType?

theorem Column.Alike.sameToRules {a b : Column} (h : a.Alike b) : a.SameToRules b := by
  cases h <;> exact ⟨rfl, rfl⟩

namespace TableOf.Alike

section General

variable {α : Type} {R : α → α → Prop} {t u : TableOf α}

theorem rearranged (h : t.Alike R u) : Rearranged (SameKey R) t.properties u.properties := by
  obtain ⟨hproperties, -⟩ := h
  exact hproperties

theorem nodup (h : t.Alike R u) : (t.properties.map Prod.fst).Nodup := by
  obtain ⟨-, hnames⟩ := h
  exact hnames

theorem required_eq (h : t.Alike R u) : t.required = u.required := by
  cases h
  rfl

theorem primaryKey_eq (h : t.Alike R u) : t.primaryKey = u.primaryKey := by
  cases h
  rfl

theorem symm (h : t.Alike R u) : u.Alike (flip R) t := by
  obtain ⟨hproperties, hnames⟩ := h
  exact .intro hproperties.symm_sameKey (hproperties.keys_perm.nodup_iff.mp hnames)

theorem exists_right (h : t.Alike R u) {name : String} {a : α} (ha : (name, a) ∈ t.properties) :
    ∃ b, (name, b) ∈ u.properties ∧ R a b := by
  obtain ⟨_, hmem, hab⟩ := h.rearranged.exists_right ha
  cases hab with
  | intro _ hab => exact ⟨_, hmem, hab⟩

theorem exists_left (h : t.Alike R u) {name : String} {b : α} (hb : (name, b) ∈ u.properties) :
    ∃ a, (name, a) ∈ t.properties ∧ R a b :=
  h.symm.exists_right hb

theorem explicitKey?_eq (h : t.Alike R u) : t.explicitKey? = u.explicitKey? := by
  unfold explicitKey?
  rw [h.primaryKey_eq]

theorem joinKey_eq (h : t.Alike R u) : t.joinKey = u.joinKey := by
  unfold joinKey
  rw [h.explicitKey?_eq]

theorem effectiveKey?_eq (h : t.Alike R u) : t.effectiveKey? = u.effectiveKey? := by
  have hid : (t.find? "id").isSome = (u.find? "id").isSome := by
    have hrel : Option.Rel R (t.find? "id") (u.find? "id") := h.rearranged.lookup h.nodup "id"
    generalize t.find? "id" = found at hrel
    generalize u.find? "id" = found' at hrel
    cases hrel <;> rfl
  unfold effectiveKey?
  rw [h.explicitKey?_eq, hid]

end General

theorem lawful {R : Column → Column → Prop} {t u : Table} (hR : ∀ a b, R a b → a.SameToRules b) (h : t.Alike R u)
    (ht : t.Lawful) : u.Lawful := by
  have hunkeyed : u.Unkeyed → t.Unkeyed := fun hkey key hprimary => hkey key (h.primaryKey_eq ▸ hprimary)
  have hfit : ∀ {a b : Column}, R a b → a.Fit → b.Fit := by
    intro a b hab ha problem hunfit
    rw [← keyProblem?_eq_some_iff, ← (hR a b hab).1, keyProblem?_eq_some_iff] at hunfit
    exact ha problem hunfit
  refine ⟨?_, ?_, ?_, ?_, ?_⟩
  · intro hkey b hb
    obtain ⟨a, ha, hab⟩ := h.exists_left hb
    exact hfit hab (ht.implied (hunkeyed hkey) a ha)
  · intro key hkey hne
    obtain ⟨a, ha⟩ := ht.known key (h.primaryKey_eq ▸ hkey) hne
    obtain ⟨b, hb, -⟩ := h.exists_right ha
    exact ⟨b, hb⟩
  · intro key hkey hne b hb
    obtain ⟨a, ha, hab⟩ := h.exists_left hb
    exact hfit hab (ht.named key (h.primaryKey_eq ▸ hkey) hne a ha)
  · rintro hkey hid ⟨name, b⟩ hb type hnested
    obtain ⟨a, ha, hab⟩ := h.exists_left hb
    rw [← nestedType?_eq_some_iff, ← (hR a b hab).2, nestedType?_eq_some_iff] at hnested
    refine ht.keyed (hunkeyed hkey) (fun c hc => ?_) _ ha type hnested
    obtain ⟨d, hd, -⟩ := h.exists_right hc
    exact hid d hd
  · intro names hnames name hname
    obtain ⟨a, ha⟩ := ht.required names (h.required_eq ▸ hnames) name hname
    obtain ⟨b, hb, -⟩ := h.exists_right ha
    exact ⟨b, hb⟩

theorem ownProblems_eq_nil_iff {t u : Table} (h : t.Alike Column.Alike u) (loc loc' : Location) :
    ownProblems loc t = [] ↔ ownProblems loc' u = [] := by
  have hlawful : ∀ {loc : Location} {t : Table}, (t.properties.map Prod.fst).Nodup →
      (ownProblems loc t = [] ↔ t.Lawful) := by
    intro loc t hnames
    rw [lawful_iff loc, List.eq_nil_iff_forall_not_mem]
    exact forall_congr' fun p => not_congr (mem_ownProblems_iff hnames)
  have hflip : ∀ a b, flip Column.Alike a b → a.SameToRules b := fun a b hab =>
    ⟨hab.sameToRules.1.symm, hab.sameToRules.2.symm⟩
  have hiff : t.Lawful ↔ u.Lawful := ⟨h.lawful fun _ _ => Column.Alike.sameToRules, h.symm.lawful hflip⟩
  rw [hlawful h.nodup, hlawful h.symm.nodup, hiff]

end TableOf.Alike

/-- Columns that are alike keep the rules both or neither if the tables that they hold do. -/
theorem Column.Alike.columnProblems_eq_nil_iff {a b : Column} (h : a.Alike b)
    (htable : ∀ steps t, a.Holds steps t → ∀ u, t.Alike Column.Alike u → ∀ loc loc',
      (tableProblems loc t = [] ↔ tableProblems loc' u = [])) (loc loc' : Location) :
    columnProblems loc a = [] ↔ columnProblems loc' b = [] := by
  have href : ∀ {loc loc' : Location} (pointer : String),
      refProblems loc pointer = [] ↔ refProblems loc' pointer = [] := fun pointer => by
    rw [refProblems_eq_nil_iff, refProblems_eq_nil_iff]
  cases h with
  | ref pointer => exact href pointer
  | value => exact Iff.rfl
  | table h => exact htable _ _ .table _ h loc loc'
  | array h =>
    cases h with
    | ref pointer => exact href pointer
    | value => exact Iff.rfl
    | table h => exact htable _ _ .item _ h _ _

/-- Tables that are alike keep the rules both or neither. -/
theorem TableOf.Alike.tableProblems_eq_nil_iff : ∀ t u : Table, t.Alike Column.Alike u → ∀ loc loc',
    (tableProblems loc t = [] ↔ tableProblems loc' u = []) := by
  apply Table.induction
  intro t ih u h loc loc'
  rw [Shape.tableProblems_eq_nil_iff, Shape.tableProblems_eq_nil_iff, h.ownProblems_eq_nil_iff loc loc']
  refine and_congr_left fun _ => h.rearranged.forall_iff ?_
  rintro _ hmem _ ⟨name, hab⟩
  exact hab.columnProblems_eq_nil_iff (fun steps nested hholds => ih name _ steps nested hmem hholds) _ _

theorem Database.Alike.problems_eq_nil_iff {db db' : Database} (h : db.Alike db') :
    db.problems = [] ↔ db'.problems = [] := by
  unfold Database.problems
  rw [List.flatMap_eq_nil_iff, List.flatMap_eq_nil_iff]
  refine h.rearranged.forall_iff ?_
  rintro _ - _ ⟨name, htable⟩
  exact TableOf.Alike.tableProblems_eq_nil_iff _ _ htable _ _

theorem ItemsOf.Alike.itemTable {items others : Items} (h : items.Alike Column.Alike others) :
    (Flat.itemTable items).Alike Column.Alike (Flat.itemTable others) := by
  cases h with
  | ref pointer => exact .intro (.singleton (.intro _ (.ref pointer))) (List.nodup_singleton _)
  | value column => exact .intro (.singleton (.intro _ (.value column))) (List.nodup_singleton _)
  | table h => exact h

/-- Putting a thing under its name makes it one of the things, in the place of the one that was there. -/
theorem putNamed_perm {α : Type} {things : List (String × α)} (h : (things.map Prod.fst).Nodup) (name : String)
    (x : α) : (putNamed things name x).Perm ((name, x) :: things.filter (·.1 ≠ name)) := by
  have hput : (putNamed things name x).Nodup := (nodup_putNamed h name x).of_map
  have hrest : ((name, x) :: things.filter (·.1 ≠ name)).Nodup :=
    List.nodup_cons.mpr ⟨by simp, h.of_map.filter _⟩
  rw [List.perm_ext_iff_of_nodup hput hrest]
  intro p
  rw [mem_putNamed_iff h]
  simp

theorem putNamed_rearranged {α : Type} {R : α → α → Prop} {things others : List (String × α)} {x y : α}
    (h : Rearranged (SameKey R) things others) (hnames : (things.map Prod.fst).Nodup) (name : String) (hxy : R x y) :
    Rearranged (SameKey R) (putNamed things name x) (putNamed others name y) := by
  have hfilter : Rearranged (SameKey R) (things.filter (·.1 ≠ name)) (others.filter (·.1 ≠ name)) :=
    h.filter fun _ _ _ hp => by
      cases hp
      rfl
  have hall := (Rearranged.singleton (SameKey.intro name hxy)).append hfilter
  have hnames' := h.keys_perm.nodup_iff.mp hnames
  exact hall.of_perm (putNamed_perm hnames name x) (putNamed_perm hnames' name y).symm

end Shape

namespace Flat

open Shape

/-! ### Nodes -/

/-- Nodes at the same place whose tables are alike. -/
structure Node.Alike (n m : Node) : Prop where
  way_eq : n.way = m.way
  table : n.table.Alike Column.Alike m.table

theorem child?_alike (w : Way) (key name : String) {a b : Shape.Column} (h : a.Alike b) :
    Option.Rel Node.Alike (Node.child? w key (name, a)) (Node.child? w key (name, b)) := by
  cases h with
  | ref => exact .none
  | value => exact .none
  | table h => exact .some ⟨rfl, h⟩
  | array h => exact .some ⟨rfl, h.itemTable⟩

namespace Node.Alike

variable {n m : Node}

theorem children (h : n.Alike m) : Rearranged Node.Alike n.children m.children := by
  unfold Node.children
  rw [h.way_eq, h.table.joinKey_eq]
  refine h.table.rearranged.filterMap ?_
  rintro _ - _ ⟨name, hab⟩
  exact child?_alike _ _ name hab

theorem subtree : ∀ n m : Node, n.Alike m → Rearranged Node.Alike n.subtree m.subtree := by
  apply Node.induction
  intro n ih m h
  rw [Node.subtree_eq, Node.subtree_eq]
  exact (h.children.flatMap fun c hc d hcd => ih c hc d hcd).append (.singleton h)

theorem properties (h : n.Alike m) : Rearranged (SameKey Column.Alike) n.properties m.properties := by
  unfold Node.properties withBack
  rw [h.way_eq]
  cases m.way.back with
  | none => exact h.table.rearranged
  | some back =>
    simp only [putBack_eq_putNamed]
    exact putNamed_rearranged h.table.rearranged h.table.nodup back.name (.ref back.pointer)

end Node.Alike

theorem nodes_rearranged {db db' : Database} (h : db.Alike db') : Rearranged Node.Alike (nodes db) (nodes db') := by
  have hroots : Rearranged Node.Alike (roots db) (roots db') := by
    refine h.rearranged.map ?_
    rintro _ - _ ⟨name, htable⟩
    exact ⟨rfl, htable⟩
  exact hroots.flatMap fun r _ s => Node.Alike.subtree r s

/-! ### Flat tables -/

/-- Flat tables that are equal up to the order of columns and references. -/
structure Table.Alike (t u : Table) : Prop where
  name_eq : t.name = u.name
  required_eq : t.required = u.required
  primaryKey_eq : t.primaryKey = u.primaryKey
  columns_perm : t.columns.Perm u.columns
  references_perm : t.references.Perm u.references

theorem Table.Alike.symm {t u : Table} (h : t.Alike u) : u.Alike t :=
  ⟨h.name_eq.symm, h.required_eq.symm, h.primaryKey_eq.symm, h.columns_perm.symm, h.references_perm.symm⟩

theorem Node.Alike.flat {n m : Node} (h : n.Alike m) : n.flat.Alike m.flat where
  name_eq := congrArg (fun way : Way => qualifiedName way.path) h.way_eq
  required_eq := h.table.required_eq
  primaryKey_eq := h.table.effectiveKey?_eq
  columns_perm := by
    refine h.properties.filterMap_perm ?_
    rintro _ - _ ⟨name, hab⟩
    cases hab <;> rfl
  references_perm := by
    show (n.properties.filterMap (flatReference? n.way.schemaPath n.way.oneToMany)).Perm
      (m.properties.filterMap (flatReference? m.way.schemaPath m.way.oneToMany))
    rw [h.way_eq]
    refine h.properties.filterMap_perm ?_
    rintro _ - _ ⟨name, hab⟩
    cases hab <;> rfl

/-- Shapes that are alike are flattened to the same tables up to order. -/
theorem flatten_rearranged {db db' : Database} (h : db.Alike db') :
    Rearranged Table.Alike (flatten db) (flatten db') := by
  rw [flatten_eq_map_nodes, flatten_eq_map_nodes]
  have hkept : Rearranged Node.Alike ((nodes db).filter (·.way.kept)) ((nodes db').filter (·.way.kept)) :=
    (nodes_rearranged h).filter fun _ _ _ hnode => by rw [hnode.way_eq]
  exact hkept.map fun _ _ _ => Node.Alike.flat

/-! ### Resolution -/

variable {tables others : List Table}

theorem names_perm (h : Rearranged Table.Alike tables others) : (tables.map (·.name)).Perm (others.map (·.name)) :=
  h.map_perm fun _ _ _ halike => halike.name_eq

/-- A reference is resolved in the same way among tables that are equal up to order, if their names and the names of
the columns of each differ. -/
theorem resolveReference_of_rearranged (h : Rearranged Table.Alike tables others)
    (hnames : (others.map (·.name)).Nodup) (hcolumns : ∀ t ∈ tables, (t.columns.map (·.name)).Nodup) {r : Reference}
    {k : ForeignKey} (hk : resolveReference tables r = .ok k) : resolveReference others r = .ok k := by
  obtain ⟨target, c, htarget, hc, htype, rfl⟩ := resolveReference_eq_ok_iff.mp hk
  have hmem := List.mem_of_find?_eq_some htarget
  obtain ⟨other, hother, halike⟩ := h.exists_right hmem
  have hcolumns' : (other.columns.map (·.name)).Nodup :=
    (halike.columns_perm.map _).nodup_iff.mp (hcolumns target hmem)
  have hname : target.name = (Pointer.split r.pointer).1 := by simpa using List.find?_some htarget
  have hcname : c.name = (Pointer.split r.pointer).2 := by simpa using List.find?_some hc
  refine resolveReference_eq_ok_iff.mpr ⟨other, c, ?_, ?_, htype, by rw [halike.name_eq]⟩
  · exact (Sql.find?_eq_some_iff_of_nodup hnames).mpr ⟨hother, halike.name_eq ▸ hname⟩
  · refine (Sql.find?_eq_some_iff_of_nodup hcolumns').mpr ⟨?_, hcname⟩
    exact halike.columns_perm.subset (List.mem_of_find?_eq_some hc)

/-- Resolved tables that are equal up to the order of columns, references and foreign keys. -/
structure ResolvedTable.Alike (t u : ResolvedTable) : Prop where
  table : t.toTable.Alike u.toTable
  foreignKeys_perm : t.foreignKeys.Perm u.foreignKeys

/-- Tables that are equal up to order are resolved to the same foreign keys. -/
theorem resolve_rearranged (h : Rearranged Table.Alike tables others)
    (hcolumns : ∀ t ∈ tables, (t.columns.map (·.name)).Nodup) {resolved : List ResolvedTable}
    (hresolve : resolve tables = .ok resolved) :
    ∃ resolved', resolve others = .ok resolved' ∧ Rearranged ResolvedTable.Alike resolved resolved' := by
  obtain ⟨hnames, hreferences, rfl⟩ := resolve_eq_ok_iff.mp hresolve
  have hnames' := (names_perm h).nodup_iff.mp hnames
  have hresolved : ∀ t ∈ tables, ∀ r ∈ t.references, ∃ k,
      resolveReference tables r = .ok k ∧ resolveReference others r = .ok k := by
    intro t ht r hr
    obtain ⟨k, hk⟩ := hreferences t ht r hr
    exact ⟨k, hk, resolveReference_of_rearranged h hnames' hcolumns hk⟩
  have hreferences' : ∀ u ∈ others, ∀ r ∈ u.references, ∃ k, resolveReference others r = .ok k := by
    intro u hu r hr
    obtain ⟨t, ht, halike⟩ := h.exists_left hu
    obtain ⟨k, -, hk⟩ := hresolved t ht r (halike.references_perm.symm.subset hr)
    exact ⟨k, hk⟩
  refine ⟨_, resolve_eq_ok_iff.mpr ⟨hnames', hreferences', rfl⟩, h.map fun t ht u halike => ⟨halike, ?_⟩⟩
  have hsame : t.references.filterMap (fun r => (resolveReference tables r).toOption) =
      t.references.filterMap fun r => (resolveReference others r).toOption := by
    refine List.filterMap_congr fun r hr => ?_
    obtain ⟨k, hk, hk'⟩ := hresolved t ht r hr
    rw [hk, hk']
  show (t.references.filterMap _).Perm (u.references.filterMap _)
  rw [hsame]
  exact halike.references_perm.filterMap _

end Flat

/-! ### Compilation -/

open Flat (ResolvedTable flatten)
open Shape (Database)

variable {document other : Value}

/-- The tables that one of two shapes that are alike is compiled to are those of the other up to order. -/
theorem compile_rearranged {db db' : Database} (hread : Shape.read document = .ok db)
    (hschema : MetaSchema.isSchema other = .ok true) (hother : Shape.read other = .ok db')
    (hproblems : db.problems = [] ↔ db'.problems = []) (hflat : Rearranged Flat.Table.Alike (flatten db) (flatten db'))
    {tables : List ResolvedTable} (h : compile document = .ok tables) :
    ∃ others, compile other = .ok others ∧ Rearranged ResolvedTable.Alike tables others := by
  obtain ⟨found, hvalid, hresolve⟩ := compile_eq_ok_iff.mp h
  have hcolumns : ∀ t ∈ flatten found, (t.columns.map (·.name)).Nodup := fun t ht =>
    (List.nodup_append.mp (Flat.flat_names_nodup hvalid t ht)).1
  obtain ⟨-, hfound, hnil⟩ := validate_eq_ok_iff.mp hvalid
  obtain rfl : found = db := Except.ok.inj (hfound.symm.trans hread)
  obtain ⟨others, hresolve', halike⟩ := Flat.resolve_rearranged hflat hcolumns hresolve
  have hvalid' := validate_eq_ok_iff.mpr ⟨hschema, hother, hproblems.mp hnil⟩
  exact ⟨others, compile_eq_ok_iff.mpr ⟨db', hvalid', hresolve'⟩, halike⟩

/-- A schema whose compilation is brought down is one whose reading comes to a look-up that fails. -/
theorem compile_eq_broken_iff (hschema : MetaSchema.isSchema document = .ok true) {cause : Breakdown} :
    compile document = .error (.broken cause) ↔ cause = .unhashableType ∧ Reading.Trips (Shape.read document) := by
  have hread : readShape document = .error (.broken cause) ↔
      cause = .unhashableType ∧ Reading.Trips (Shape.read document) := by
    unfold readShape Reading.Trips
    rcases Shape.read document with (found | _) | db <;> simp [eq_comm]
  have hcheck : checkSchema document ≠ .error (.broken cause) := by
    rw [checkSchema_eq_ok_iff (u := ()) |>.mpr hschema]
    exact nofun
  rw [← hread, compile_eq_error_iff]
  simp [hcheck, hschema, checkShape_ne_broken, resolveAll_ne_broken]

/-- Two schemas in JSON that are equal up to the order of members are both compiled, both refused or both bring the
compilation down; the tables that they are compiled to have the same names, and tables of one name are equal up to
the order of columns, references and foreign keys. -/
theorem compile_reordered (hjson : document.IsJson) (h : Reordered document other)
    (hschema : checkSchema document = .ok ()) (hschema' : checkSchema other = .ok ()) :
    ((∃ tables, compile document = .ok tables) ↔ ∃ tables, compile other = .ok tables) ∧
      (∀ cause, compile document = .error (.broken cause) ↔ compile other = .error (.broken cause)) ∧
      ∀ tables others, compile document = .ok tables → compile other = .ok others →
        (tables.map (·.name)).Perm (others.map (·.name)) ∧
          ∀ t ∈ tables, ∀ u ∈ others, t.name = u.name → t.Alike u := by
  rw [checkSchema_eq_ok_iff] at hschema hschema'
  have hagree := Shape.read_agrees hjson h
  have hforth : ∀ tables, compile document = .ok tables →
      ∃ others, compile other = .ok others ∧ Rearranged ResolvedTable.Alike tables others := by
    intro tables htables
    obtain ⟨db, hdb, -⟩ := compile_eq_ok_iff.mp htables
    have hread := (validate_eq_ok_iff.mp hdb).2.1
    obtain ⟨db', hother, halike⟩ := hagree.exists_right hread
    exact compile_rearranged hread hschema' hother halike.problems_eq_nil_iff (Flat.flatten_rearranged halike) htables
  have hback : ∀ others, compile other = .ok others → ∃ tables, compile document = .ok tables := by
    intro others hothers
    obtain ⟨db', hdb', -⟩ := compile_eq_ok_iff.mp hothers
    have hother := (validate_eq_ok_iff.mp hdb').2.1
    obtain ⟨db, hread, halike⟩ := hagree.exists_left hother
    have hflat := (Flat.flatten_rearranged halike).symm.imp fun _ _ _ h => Flat.Table.Alike.symm h
    obtain ⟨tables, htables, -⟩ :=
      compile_rearranged hother hschema hread halike.problems_eq_nil_iff.symm hflat hothers
    exact ⟨tables, htables⟩
  refine ⟨⟨?_, ?_⟩, fun cause => ?_, ?_⟩
  · rintro ⟨tables, htables⟩
    obtain ⟨others, hothers, -⟩ := hforth tables htables
    exact ⟨others, hothers⟩
  · rintro ⟨others, hothers⟩
    exact hback others hothers
  · rw [compile_eq_broken_iff hschema, compile_eq_broken_iff hschema', hagree.trips_iff]
  · intro tables others htables hothers
    obtain ⟨found, hfound, halike⟩ := hforth tables htables
    obtain rfl : found = others := Except.ok.inj (hfound.symm.trans hothers)
    refine ⟨halike.map_perm fun _ _ _ h => h.table.name_eq, fun t ht u hu hname => ?_⟩
    obtain ⟨u', hu', htu⟩ := halike.exists_right ht
    have hname' : u'.name = u.name := htu.table.name_eq.symm.trans hname
    obtain rfl : u' = u := List.inj_on_of_nodup_map (Flat.names_nodup_of_compile hothers) hu' hu hname'
    exact htu

/-- Owners and their pets. -/
def pets : Value := objectOf
  [("owners", objectOf [("id", typed "integer"), ("name", typed "string")]),
   ("pets", objectOf [("owner", pointing "#/owners/id")])]

/-- The same in another order. -/
def petsFirst : Value := objectOf
  [("pets", objectOf [("owner", pointing "#/owners/id")]),
   ("owners", objectOf [("name", typed "string"), ("id", typed "integer")])]

theorem reordered_pets : Reordered pets petsFirst := by
  have hfield : ∀ key s, Reordered (.object [(key, .text s)]) (.object [(key, .text s)]) := fun _ _ =>
    .map (.singleton (.intro _ (.scalar _)))
  have htable : ∀ v w, Reordered v w → Reordered (.object [("type", .text "object"), ("properties", v)])
      (.object [("type", .text "object"), ("properties", w)]) := fun _ _ h =>
    .map (.of_forall₂ (.cons (.intro _ (.scalar _)) (.cons (.intro _ h) .nil)))
  have hswap : ∀ k l v v' w w', Reordered v v' → Reordered w w' →
      Reordered (.object [(k, v), (l, w)]) (.object [(l, w'), (k, v')]) := fun _ _ _ _ _ _ hv hw =>
    .map ⟨.cons (.intro _ hv) (.cons (.intro _ hw) .nil), .swap ..⟩
  refine htable _ _ (hswap _ _ _ _ _ _ (htable _ _ (hswap _ _ _ _ _ _ ?_ ?_)) (htable _ _ ?_))
  · exact hfield _ _
  · exact hfield _ _
  · exact .map (.singleton (.intro _ (hfield _ _)))

theorem compile_reordered_pets : ∃ tables others, pets.IsJson ∧ Reordered pets petsFirst ∧
    compile pets = .ok tables ∧ compile petsFirst = .ok others ∧
    (tables.map (·.name)).Perm (others.map (·.name)) ∧ ∀ t ∈ tables, ∀ u ∈ others, t.name = u.name → t.Alike u := by
  have hjson : pets.IsJson := by
    simp [pets, objectOf, typed, pointing, Value.object, Value.IsJson, membersJson, Scalar.IsJson]
  obtain ⟨tables, htables⟩ : ∃ tables, compile pets = .ok tables := ⟨_, rfl⟩
  obtain ⟨others, hothers⟩ : ∃ others, compile petsFirst = .ok others := ⟨_, rfl⟩
  exact ⟨tables, others, hjson, reordered_pets, htables, hothers,
    (compile_reordered hjson reordered_pets rfl rfl).2.2 tables others htables hothers⟩

end ShapeTables
