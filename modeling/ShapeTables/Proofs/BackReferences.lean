import ShapeTables.Proofs.Lossless
import ShapeTables.Proofs.Pointers
import ShapeTables.Proofs.PrimaryKeys

/-! Where back references lead. The pointer of a back reference is made of the names on the way to a table and of
the key of this table, and is split again when the reference is resolved. So it leads to the key of the table
around exactly when no slash is in these names and no other back reference has taken the place of the key. -/
namespace ShapeTables.Flat

open Shape

/-- The back reference of what is nested in a node, as a reference of the flat table of a child of the node. -/
def Node.backReference (n c : Node) : Reference where
  name := (BackReference.to n.way.path n.table.joinKey).name
  pointer := (BackReference.to n.way.path n.table.joinKey).pointer
  schemaPath := c.way.schemaPath
  oneToMany := c.way.oneToMany

/-- Nodes that the back references of their children can be traced to. -/
structure Node.Traceable (n : Node) : Prop where
  path_plain : ∀ name ∈ n.way.path, '/' ∉ name.toList
  key_plain : '/' ∉ n.table.joinKey.toList
  /-- The back reference of the node itself has not taken the place of its key. -/
  key_kept : ∀ back, n.way.back = some back → back.name ≠ n.table.joinKey

/-- A foreign key that leads to the key of a table. -/
def ForeignKey.LeadsTo (k : ForeignKey) (target : Table) : Prop :=
  k.target.table = target.name ∧ target.primaryKey = some k.target.column

variable {n c : Node} {tables : List Table}

theorem back_of_mem_children (hc : c ∈ n.children) :
    c.way.back = some (BackReference.to n.way.path n.table.joinKey) := by
  obtain ⟨⟨name, column⟩, -, hchild⟩ := List.mem_filterMap.mp hc
  cases column <;> cases hchild <;> rfl

theorem backReference_mem (hdistinct : c.Distinct) (hc : c ∈ n.children) :
    n.backReference c ∈ c.flat.references :=
  Node.mem_references_of_back hdistinct (back_of_mem_children hc)

/-- A parent that the back reference of a child leads to is traceable. -/
theorem traceable_of_leadsTo (hregular : n.Regular) (hdistinct : n.Distinct) (hc : c ∈ n.children)
    (hmem : n.flat ∈ tables) (hnames : (tables.map (·.name)).Nodup) {k : ForeignKey}
    (hk : resolveReference tables (n.backReference c) = .ok k) (hleads : k.LeadsTo n.flat) : n.Traceable := by
  have hkey : n.table.effectiveKey? = some n.table.joinKey := hregular.effectiveKey?_eq hc
  obtain ⟨target, column, htarget, hfound, -, rfl⟩ := resolveReference_eq_ok_iff.mp hk
  obtain ⟨htargetMem, htargetName⟩ := (Sql.find?_eq_some_iff_of_nodup hnames).mp htarget
  have hcolumnName : column.name = (Pointer.split (n.backReference c).pointer).2 := by
    simpa using List.find?_some hfound
  have hcolumnKey : column.name = n.table.joinKey := Option.some.inj (hleads.2.symm.trans hkey)
  have htable : target.name = qualifiedName n.way.path := hleads.1
  -- what a pointer is split into holds no slash, and it is the name of the table and the key
  obtain ⟨hpath, hcolumn⟩ := Pointer.slash_not_mem_split (n.backReference c).pointer
  rw [← htargetName, htable, mem_qualifiedName_iff (by decide)] at hpath
  rw [← hcolumnName, hcolumnKey] at hcolumn
  refine ⟨fun name hname hslash => hpath ⟨name, hname, hslash⟩, hcolumn, fun back hback hname => ?_⟩
  -- a back reference of the name of the key would stand beside the column that is found
  obtain rfl : target = n.flat := List.inj_on_of_nodup_map hnames htargetMem hmem hleads.1
  have hown : n.table.joinKey ∈ n.flat.columns.map (·.name) :=
    List.mem_map.mpr ⟨column, List.mem_of_find?_eq_some hfound, hcolumnKey⟩
  refine (hregular.key_mem_columns_iff hdistinct hkey).mp hown ?_
  exact List.mem_map.mpr ⟨_, Node.mem_references_of_back hdistinct hback, hname⟩

/-- The back reference of a child of a traceable node is resolved and leads to the key of the node. -/
theorem Node.Traceable.exists_leadsTo (h : n.Traceable) (hregular : n.Regular) (hdistinct : n.Distinct)
    (hc : c ∈ n.children) (hmem : n.flat ∈ tables) (hnames : (tables.map (·.name)).Nodup) :
    ∃ k, resolveReference tables (n.backReference c) = .ok k ∧ k.LeadsTo n.flat := by
  have hkey : n.table.effectiveKey? = some n.table.joinKey := hregular.effectiveKey?_eq hc
  have hsplit : Pointer.split (n.backReference c).pointer = (n.flat.name, n.table.joinKey) :=
    Pointer.split_build h.path_plain h.key_plain
  have htarget : tables.find? (fun t => t.name = n.flat.name) = some n.flat :=
    (Sql.find?_eq_some_iff_of_nodup hnames).mpr ⟨hmem, rfl⟩
  obtain ⟨_, hcolumn, hname⟩ := List.mem_map.mp (hregular.key_mem_columns hdistinct hkey h.key_kept)
  have hsome : (n.flat.findColumn? n.table.joinKey).isSome := by
    rw [Table.findColumn?, List.find?_isSome]
    exact ⟨_, hcolumn, by simpa using hname⟩
  obtain ⟨column, hfound⟩ := Option.isSome_iff_exists.mp hsome
  have hcolumnName : column.name = n.table.joinKey := by simpa using List.find?_some hfound
  have htype := hregular.isKeyType_of_mem_columns hdistinct (List.mem_of_find?_eq_some hfound) (hcolumnName ▸ hkey)
  refine ⟨_, resolveReference_eq_ok_iff.mpr ⟨n.flat, column, ?_, ?_, htype, rfl⟩, rfl, ?_⟩
  · rw [hsplit, htarget]
  · rw [hsplit, hfound]
  · exact hkey.trans (congrArg some hcolumnName.symm)

/-- In resolved tables, the foreign key that a back reference stands for. -/
def BackKey (resolved : List ResolvedTable) (n c : Node) (k : ForeignKey) : Prop :=
  ∃ t ∈ resolved, t.toTable = c.flat ∧ k ∈ t.foreignKeys ∧ k.name = (n.backReference c).name

/-- The foreign key of a back reference is the one that the back reference is resolved to. -/
theorem backKey_iff {resolved : List ResolvedTable} (hresolve : resolve tables = .ok resolved)
    (hdistinct : c.Distinct) (hc : c ∈ n.children) (hmem : c.flat ∈ tables) {k : ForeignKey} :
    BackKey resolved n c k ↔ resolveReference tables (n.backReference c) = .ok k := by
  obtain ⟨-, -, rfl⟩ := resolve_eq_ok_iff.mp hresolve
  have hback := backReference_mem hdistinct hc
  constructor
  · rintro ⟨_, ht, hflat, hk, hname⟩
    obtain ⟨flat, -, rfl⟩ := List.mem_map.mp ht
    obtain rfl : flat = c.flat := hflat
    obtain ⟨r, hr, hoption⟩ := List.mem_filterMap.mp hk
    have hresolved : resolveReference tables r = .ok k := by
      cases hcase : resolveReference tables r with
      | ok k' => rw [hcase] at hoption; exact congrArg _ (Option.some.inj hoption)
      | error p => rw [hcase] at hoption; cases hoption
    have hrname : r.name = (n.backReference c).name := by
      obtain ⟨_, _, -, -, -, rfl⟩ := resolveReference_eq_ok_iff.mp hresolved
      exact hname
    -- the references of a table have different names
    have hreferences := (List.nodup_append.mp hdistinct.flat_names).2.1
    rwa [← List.inj_on_of_nodup_map hreferences hr hback hrname]
  · intro h
    refine ⟨resolveTable tables c.flat, List.mem_map_of_mem hmem, rfl, List.mem_filterMap.mpr ⟨_, hback, ?_⟩, ?_⟩
    · rw [h]
      rfl
    · obtain ⟨_, _, -, -, -, rfl⟩ := resolveReference_eq_ok_iff.mp h
      rfl

/-- For each table that is nested in another one, the back reference is resolved and leads to the key of the table
around exactly when this table is traceable, and when all references are resolved, so does its foreign key. -/
theorem backReference_leadsTo_iff {document : Value} {db : Database} (h : validate document = .ok db)
    (hnames : ((flatten db).map (·.name)).Nodup) : ∀ n ∈ nodes db, ∀ c ∈ n.children, c.way.kept →
      ((∃ k, resolveReference (flatten db) (n.backReference c) = .ok k ∧ k.LeadsTo n.flat) ↔ n.Traceable) ∧
        ∀ resolved, resolve (flatten db) = .ok resolved →
          ((∃ k, BackKey resolved n c k ∧ k.LeadsTo n.flat) ↔ n.Traceable) := by
  intro n hn c hc hkept
  obtain ⟨-, hread, hproblems⟩ := validate_eq_ok_iff.mp h
  have hmem : ∀ m ∈ nodes db, m.way.kept → m.flat ∈ flatten db := by
    intro m hm hkept
    rw [flatten_eq_map_nodes]
    exact List.mem_map_of_mem (List.mem_filter.mpr ⟨hm, hkept⟩)
  have hcmem := children_subset_nodes hn hc
  have hregular := regular_of_problems_eq_nil hproblems n hn
  have hdistinct := distinct_of_read hread
  have hnflat := hmem n hn (Node.kept_of_mem_children hc hkept)
  have hiff : (∃ k, resolveReference (flatten db) (n.backReference c) = .ok k ∧ k.LeadsTo n.flat) ↔ n.Traceable := by
    constructor
    · rintro ⟨k, hk, hleads⟩
      exact traceable_of_leadsTo hregular (hdistinct n hn) hc hnflat hnames hk hleads
    · intro htraceable
      exact htraceable.exists_leadsTo hregular (hdistinct n hn) hc hnflat hnames
  refine ⟨hiff, fun resolved hresolve => ?_⟩
  simp only [backKey_iff hresolve (hdistinct c hcmem) hc (hmem c hcmem hkept), hiff]

theorem backReferences_blogShape : validate blog = .ok blogShape ∧ ((flatten blogShape).map (·.name)).Nodup ∧
    ∃ n ∈ nodes blogShape, ∃ c ∈ n.children, c.way.path = ["posts", "comments"] ∧ c.way.kept ∧ n.Traceable ∧
      (∃ k, resolveReference (flatten blogShape) (n.backReference c) = .ok k ∧ k.LeadsTo n.flat) ∧
      ∃ resolved, resolve (flatten blogShape) = .ok resolved ∧ ∃ k, BackKey resolved n c k ∧ k.LeadsTo n.flat := by
  have hvalid : validate blog = .ok blogShape := rfl
  have hnames : ((flatten blogShape).map (·.name)).Nodup := by decide
  have hresolve : resolve (flatten blogShape) = .ok blogTables := rfl
  obtain ⟨n, hn, c, hc, hpath, hkept, htraceable⟩ : ∃ n ∈ nodes blogShape, ∃ c ∈ n.children,
      c.way.path = ["posts", "comments"] ∧ c.way.kept ∧ n.Traceable :=
    ⟨_, mem_nodes_iff.mpr ⟨_, List.mem_cons_of_mem _ List.mem_cons_self, Node.mem_subtree_self _⟩,
      _, List.mem_cons_self, rfl, rfl, by decide, by decide, nofun⟩
  have h := backReference_leadsTo_iff hvalid hnames n hn c hc hkept
  exact ⟨hvalid, hnames, n, hn, c, hc, hpath, hkept, htraceable, h.1.mpr htraceable, _, hresolve,
    (h.2 _ hresolve).mpr htraceable⟩

/-- Things that are nested in a table with a slash in its name. -/
def slashed : Value := objectOf
  [("a/b", objectOf [("id", typed "integer"), ("c", objectOf [])])]

/-- The pointer of the back reference is taken for one to a table that is not there. -/
theorem slashed_not_resolved : ∃ db, validate slashed = .ok db ∧ ((flatten db).map (·.name)).Nodup ∧
    resolve (flatten db) = .error
      [⟨[.name "properties", .name "a/b", .name "properties", .name "c", .name "properties", .name "a/b_id",
        .name "$ref"], .unknownTable "#/a/b/id" "a_b"⟩] :=
  ⟨_, rfl, by decide, rfl⟩

end ShapeTables.Flat
