import ShapeTables.Proofs.Keys
import ShapeTables.Proofs.Pointers

/-! Violations of the rules of shapes. Each table of a shape and each pointer in it has a location, and what violates
a rule there is said without regard to how shapes are gone through. The problems of a shape are exactly these
violations. -/
namespace ShapeTables.Shape

open Text (joinWith splitOn)

/-! ### Locations -/

/-- A column holds a table, after some steps. -/
inductive Column.Holds : Column → Location → Table → Prop where
  | table {t : Table} : Holds (.table t) [] t
  | item {t : Table} : Holds (.array (.table t)) [.name "items"] t

/-- A column points somewhere, after some steps. -/
inductive Column.Points : Column → Location → String → Prop where
  | ref {pointer : String} : Points (.ref pointer) [] pointer
  | item {pointer : String} : Points (.array (.ref pointer)) [.name "items"] pointer

/-- A table of a shape is at a location, at the root or in the property of another table. -/
inductive Database.TableAt (db : Database) : Location → Table → Prop where
  | root {name : String} {t : Table} (ht : (name, t) ∈ db.tables) : TableAt db [.name "properties", .name name] t
  | nested {loc steps : Location} {t nested : Table} {name : String} {column : Column} (h : TableAt db loc t)
    (hp : (name, column) ∈ t.properties) (hholds : column.Holds steps nested) :
    TableAt db (loc ++ [.name "properties", .name name] ++ steps) nested

/-- A reference with a pointer is at a location, in the property of a table. -/
inductive Database.PointerAt (db : Database) : Location → String → Prop where
  | property {loc steps : Location} {t : Table} {name pointer : String} {column : Column} (h : db.TableAt loc t)
    (hp : (name, column) ∈ t.properties) (hpoints : column.Points steps pointer) :
    PointerAt db (loc ++ [.name "properties", .name name] ++ steps) pointer

/-! ### Rules -/

/-- Pointers that begin with the lead. -/
def Pointer.Leads (pointer : String) : Prop := ∃ rest, pointer = "#/" ++ rest

/-- Pointers that have the names of at least one table and of a column after the first slash, none of them empty. -/
def Pointer.Names (pointer : String) : Prop := ∃ first names, pointer = joinWith '/' (first :: names) ∧
  2 ≤ names.length ∧ '/' ∉ first.toList ∧ ∀ name ∈ names, name ≠ "" ∧ '/' ∉ name.toList

/-- What is wrong with a pointer at a location. -/
inductive PointerViolation (loc : Location) (pointer : String) : Problem → Prop where
  | noLead (h : ¬Pointer.Leads pointer) : PointerViolation loc pointer ⟨loc ++ [.name "$ref"], .pointerForm .noLead⟩
  | noColumn (h : ¬Pointer.Names pointer) :
    PointerViolation loc pointer ⟨loc ++ [.name "$ref"], .pointerForm .noColumn⟩

/-- Columns that can be no keys, each with what is wrong with it. -/
inductive Column.Unfit : Column → KeyProblem → Prop where
  | ref {pointer : String} : Unfit (.ref pointer) .reference
  | table {t : Table} : Unfit (.table t) (.typed "object")
  | array {items : Items} : Unfit (.array items) (.typed "array")
  | number {c : ValueColumn} (h : c.type = .number) : Unfit (.value c) (.typed "number")
  | date {c : ValueColumn} (h : c.type = .string (some .date)) : Unfit (.value c) (.formatted "string" "date")
  | datetime {c : ValueColumn} (h : c.type = .string (some .datetime)) :
    Unfit (.value c) (.formatted "string" "datetime")

/-- Columns that make tables of their own, each with its type. -/
inductive Column.Nested : Column → String → Prop where
  | table {t : Table} : Nested (.table t) "object"
  | array {items : Items} : Nested (.array items) "array"

/-- Tables that do not name a key. -/
def TableOf.Unkeyed (t : Table) : Prop := ∀ key, t.primaryKey = some key → key = ""

/-- What is wrong with a table at a location, apart from what is wrong with its properties. -/
inductive TableViolation (loc : Location) (t : Table) : Problem → Prop where
  | idKey {column : Column} {problem : KeyProblem} (hkey : t.Unkeyed) (hid : ("id", column) ∈ t.properties)
    (hunfit : column.Unfit problem) : TableViolation loc t ⟨loc ++ [.name "properties", .name "id"], .idKey problem⟩
  | unknownKey {key : String} (hkey : t.primaryKey = some key) (hne : key ≠ "")
    (hmissing : ∀ column, (key, column) ∉ t.properties) :
    TableViolation loc t ⟨loc ++ [.name "x-primaryKey"], .unknownKey key⟩
  | namedKey {key : String} {column : Column} {problem : KeyProblem} (hkey : t.primaryKey = some key) (hne : key ≠ "")
    (hcolumn : (key, column) ∈ t.properties) (hunfit : column.Unfit problem) :
    TableViolation loc t ⟨loc ++ [.name "x-primaryKey"], .namedKey problem⟩
  /-- Of the properties that need a key, the first is told. -/
  | keyless {before after : List (String × Column)} {name type : String} {column : Column} (hkey : t.Unkeyed)
    (hid : ∀ column, ("id", column) ∉ t.properties) (hsplit : t.properties = before ++ (name, column) :: after)
    (hnested : column.Nested type) (hbefore : ∀ p ∈ before, ∀ type, ¬p.2.Nested type) :
    TableViolation loc t ⟨loc ++ [.name "properties", .name name], .keyless name type⟩
  | missingField {names : List String} {i : Nat} {name : String} (hrequired : t.required = some names)
    (hname : names[i]? = some name) (hmissing : ∀ column, (name, column) ∉ t.properties) :
    TableViolation loc t ⟨loc ++ [.name "required", .index i], .missingField name⟩

/-- What violates a rule in a shape. -/
inductive Database.Violation (db : Database) (p : Problem) : Prop where
  | table {loc : Location} {t : Table} (h : db.TableAt loc t) (hp : TableViolation loc t p)
  | pointer {loc : Location} {pointer : String} (h : db.PointerAt loc pointer) (hp : PointerViolation loc pointer p)

/-! ### Pointers -/

theorem isPrefixOf_lead_iff {pointer : String} :
    Pointer.lead.toList.isPrefixOf pointer.toList ↔ Pointer.Leads pointer := by
  rw [List.isPrefixOf_iff_prefix]
  constructor
  · rintro ⟨rest, hrest⟩
    refine ⟨String.ofList rest, String.toList_inj.mp ?_⟩
    simpa [Pointer.lead] using hrest.symm
  · rintro ⟨rest, rfl⟩
    exact ⟨rest.toList, (String.toList_append).symm⟩

/-- The names of a pointer are the segments that it is cut into, after the first of them. -/
theorem names_iff {pointer : String} : Pointer.Names pointer ↔
    3 ≤ (splitOn '/' pointer).length ∧ ∀ segment ∈ (splitOn '/' pointer).tail, segment ≠ "" := by
  constructor
  · rintro ⟨first, names, rfl, hlength, hfirst, hnames⟩
    have hplain : ∀ piece ∈ first :: names, '/' ∉ piece.toList :=
      List.forall_mem_cons.mpr ⟨hfirst, fun name hname => (hnames name hname).2⟩
    rw [Text.splitOn_joinWith (List.cons_ne_nil _ _) hplain]
    refine ⟨?_, fun name hname => (hnames name hname).1⟩
    rw [List.length_cons]
    omega
  · rintro ⟨hlength, hnonempty⟩
    have hjoin := Text.joinWith_splitOn '/' pointer
    have hplain : ∀ piece ∈ splitOn '/' pointer, '/' ∉ piece.toList := Text.not_mem_of_mem_splitOn
    cases hsplit : splitOn '/' pointer with
    | nil => simp [hsplit] at hlength
    | cons first names =>
      rw [hsplit] at hjoin hplain hlength hnonempty
      rw [List.length_cons] at hlength
      refine ⟨first, names, hjoin.symm, by omega, hplain first List.mem_cons_self, fun name hname => ?_⟩
      exact ⟨hnonempty name hname, hplain name (List.mem_cons_of_mem _ hname)⟩

theorem mem_refProblems_iff {loc : Location} {pointer : String} {p : Problem} :
    p ∈ refProblems loc pointer ↔ PointerViolation loc pointer p := by
  have hlead : .noLead ∈ Pointer.problems pointer ↔ ¬Pointer.Leads pointer := by
    rw [← isPrefixOf_lead_iff, Pointer.problems]
    split <;> split <;> simp [*]
  have hcolumn : .noColumn ∈ Pointer.problems pointer ↔ ¬Pointer.Names pointer := by
    have hcondition : ((splitOn '/' pointer).length < 3 ∨ (splitOn '/' pointer).tail.any String.isEmpty) ↔
        ¬Pointer.Names pointer := by
      rw [names_iff, Decidable.not_and_iff_or_not, Nat.not_le]
      simp [String.isEmpty_iff]
    rw [← hcondition, Pointer.problems]
    split
    all_goals
      split
      · next h => exact iff_of_true (by simp) h
      · next h => exact iff_of_false (by simp) h
  rw [refProblems, List.mem_map]
  constructor
  · rintro ⟨problem, hproblem, rfl⟩
    cases problem with
    | noLead => exact .noLead (hlead.mp hproblem)
    | noColumn => exact .noColumn (hcolumn.mp hproblem)
  · rintro (h | h)
    · exact ⟨_, hlead.mpr h, rfl⟩
    · exact ⟨_, hcolumn.mpr h, rfl⟩

/-! ### Tables -/

theorem keyProblem?_eq_some_iff {column : Column} {problem : KeyProblem} :
    column.keyProblem? = some problem ↔ column.Unfit problem := by
  constructor
  · intro h
    cases column with
    | ref pointer => cases h; exact .ref
    | table t => cases h; exact .table
    | array items => cases h; exact .array
    | value c =>
      simp only [Column.keyProblem?] at h
      split at h
      · next htype => cases h; exact .number htype
      · next htype => cases h; exact .date htype
      · next htype => cases h; exact .datetime htype
      · cases h
  · rintro (_ | _ | _ | h | h | h)
    · rfl
    · rfl
    · rfl
    all_goals rw [Column.keyProblem?, h]

theorem nestedType?_eq_some_iff {column : Column} {type : String} :
    column.nestedType? = some type ↔ column.Nested type := by
  constructor
  · intro h
    cases column with
    | table t => cases h; exact .table
    | array items => cases h; exact .array
    | _ => cases h
  · rintro (_ | _) <;> rfl

theorem nestedType?_eq_none_iff {column : Column} :
    column.nestedType? = none ↔ ∀ type, ¬column.Nested type := by
  simp only [← nestedType?_eq_some_iff, Option.eq_none_iff_forall_ne_some, ne_eq]

section Tables

variable {loc : Location} {t : Table} {p : Problem}

theorem TableOf.explicitKey?_eq_none_iff : t.explicitKey? = none ↔ t.Unkeyed := by
  unfold explicitKey? Unkeyed
  split
  · next h => simp [h]
  · next h => simp [h]
  · next key hne h => simpa [h] using hne

theorem TableOf.explicitKey?_eq_some_iff {key : String} :
    t.explicitKey? = some key ↔ t.primaryKey = some key ∧ key ≠ "" := by
  unfold explicitKey?
  split
  · next h => simp [h, eq_comm]
  · next h => simp [h]
  · next found hne h =>
    rw [h, Option.some.injEq]
    constructor
    · rintro rfl
      exact ⟨rfl, hne⟩
    · exact fun h => h.1

theorem TableOf.find?_eq_none_iff {name : String} :
    t.find? name = none ↔ ∀ column, (name, column) ∉ t.properties := by
  constructor
  · intro h column hmem
    simpa [h] using isSome_find? hmem
  · intro h
    cases hfind : t.find? name with
    | none => rfl
    | some column => exact absurd (mem_of_find? hfind) (h column)

/-- Among properties of different names, the one that is found is the only one of its name. -/
theorem TableOf.find?_eq_some_iff (hnames : (t.properties.map Prod.fst).Nodup) {name : String} {column : Column} :
    t.find? name = some column ↔ (name, column) ∈ t.properties :=
  lookup_eq_some_iff_of_nodup hnames

theorem firstNested?_eq_some_iff {properties : List (String × Column)} {name type : String} :
    firstNested? properties = some (name, type) ↔ ∃ before column after,
      properties = before ++ (name, column) :: after ∧ column.Nested type ∧
        ∀ p ∈ before, ∀ type, ¬p.2.Nested type := by
  have hnone : ∀ p : String × Column, p.2.nestedType?.map (p.1, ·) = none ↔ ∀ type, ¬p.2.Nested type := by
    intro p
    rw [Option.map_eq_none_iff, nestedType?_eq_none_iff]
  rw [firstNested?, List.findSome?_eq_some_iff]
  constructor
  · rintro ⟨before, ⟨found, column⟩, after, hsplit, hfound, hbefore⟩
    obtain ⟨found', hfound', heq⟩ := Option.map_eq_some_iff.mp hfound
    cases heq
    exact ⟨before, column, after, hsplit, nestedType?_eq_some_iff.mp hfound', fun p hp => (hnone p).mp (hbefore p hp)⟩
  · rintro ⟨before, column, after, hsplit, hnested, hbefore⟩
    refine ⟨before, (name, column), after, hsplit, ?_, fun p hp => (hnone p).mpr (hbefore p hp)⟩
    simp [nestedType?_eq_some_iff.mpr hnested]

theorem mem_requiredProblems_iff {start : Nat} {names : List String} : p ∈ requiredProblems loc t start names ↔
    ∃ i name, names[i]? = some name ∧ t.find? name = none ∧
      p = ⟨loc ++ [.name "required", .index ↑(start + i)], .missingField name⟩ := by
  induction names generalizing start with
  | nil => simp [requiredProblems]
  | cons first rest ih =>
    rw [requiredProblems, List.mem_append, ih]
    constructor
    · rintro (h | ⟨i, name, hname, hmissing, rfl⟩)
      · split at h
        · cases h
        · next hfind =>
          refine ⟨0, first, rfl, by simpa using hfind, ?_⟩
          simpa using h
      · exact ⟨i + 1, name, hname, hmissing, by rw [Nat.add_right_comm, Nat.add_assoc]⟩
    · rintro ⟨i, name, hname, hmissing, rfl⟩
      cases i with
      | zero =>
        cases hname
        simp [hmissing]
      | succ i => exact .inr ⟨i, name, hname, hmissing, by rw [Nat.add_right_comm, Nat.add_assoc]⟩

theorem tableViolation_of_mem_impliedKeyProblems (hkey : t.Unkeyed) (h : p ∈ impliedKeyProblems loc t) :
    TableViolation loc t p := by
  unfold impliedKeyProblems at h
  split at h
  · next column hfind =>
    obtain ⟨problem, hproblem, rfl⟩ := List.mem_map.mp h
    exact .idKey hkey (TableOf.mem_of_find? hfind) (keyProblem?_eq_some_iff.mp (Option.mem_toList.mp hproblem))
  · next hfind =>
    obtain ⟨⟨name, type⟩, hnested, rfl⟩ := List.mem_map.mp h
    obtain ⟨before, column, after, hsplit, htype, hbefore⟩ :=
      firstNested?_eq_some_iff.mp (Option.mem_toList.mp hnested)
    exact .keyless hkey (TableOf.find?_eq_none_iff.mp hfind) hsplit htype hbefore

theorem tableViolation_of_mem_namedKeyProblems {key : String} (hkey : t.explicitKey? = some key)
    (h : p ∈ namedKeyProblems loc t key) : TableViolation loc t p := by
  obtain ⟨hprimary, hne⟩ := TableOf.explicitKey?_eq_some_iff.mp hkey
  unfold namedKeyProblems at h
  split at h
  · next hfind =>
    rw [List.mem_singleton.mp h]
    exact .unknownKey hprimary hne (TableOf.find?_eq_none_iff.mp hfind)
  · next column hfind =>
    obtain ⟨problem, hproblem, rfl⟩ := List.mem_map.mp h
    exact .namedKey hprimary hne (TableOf.mem_of_find? hfind)
      (keyProblem?_eq_some_iff.mp (Option.mem_toList.mp hproblem))

theorem tableViolation_of_mem_requiredProblems (h : p ∈ requiredProblems loc t 0 (t.required.getD [])) :
    TableViolation loc t p := by
  obtain ⟨i, name, hname, hmissing, rfl⟩ := mem_requiredProblems_iff.mp h
  cases hrequired : t.required with
  | none => simp [hrequired] at hname
  | some names =>
    rw [hrequired, Option.getD_some] at hname
    rw [Nat.zero_add]
    exact .missingField hrequired hname (TableOf.find?_eq_none_iff.mp hmissing)

/-- The problems of a table that do not lie in its properties are its violations. -/
theorem mem_ownProblems_iff (hnames : (t.properties.map Prod.fst).Nodup) :
    p ∈ ownProblems loc t ↔ TableViolation loc t p := by
  constructor
  · intro h
    unfold ownProblems at h
    rcases List.mem_append.mp h with h | h
    · rcases List.mem_append.mp h with h | h
      · split at h
        · cases h
        · next hkey => exact tableViolation_of_mem_impliedKeyProblems (TableOf.explicitKey?_eq_none_iff.mp hkey) h
      · exact tableViolation_of_mem_requiredProblems h
    · split at h
      · next key hkey => exact tableViolation_of_mem_namedKeyProblems hkey h
      · cases h
  · intro h
    cases h with
    | idKey hkey hid hunfit =>
      have hproblem := keyProblem?_eq_some_iff.mpr hunfit
      simp [ownProblems, TableOf.explicitKey?_eq_none_iff.mpr hkey, impliedKeyProblems,
        (TableOf.find?_eq_some_iff hnames).mpr hid, hproblem]
    | unknownKey hkey hne hmissing =>
      simp [ownProblems, TableOf.explicitKey?_eq_some_iff.mpr ⟨hkey, hne⟩, namedKeyProblems,
        TableOf.find?_eq_none_iff.mpr hmissing]
    | namedKey hkey hne hcolumn hunfit =>
      have hproblem := keyProblem?_eq_some_iff.mpr hunfit
      simp [ownProblems, TableOf.explicitKey?_eq_some_iff.mpr ⟨hkey, hne⟩, namedKeyProblems,
        (TableOf.find?_eq_some_iff hnames).mpr hcolumn, hproblem]
    | keyless hkey hid hsplit hnested hbefore =>
      have hfirst := firstNested?_eq_some_iff.mpr ⟨_, _, _, hsplit, hnested, hbefore⟩
      simp [ownProblems, TableOf.explicitKey?_eq_none_iff.mpr hkey, impliedKeyProblems,
        TableOf.find?_eq_none_iff.mpr hid, hfirst]
    | @missingField names i name hrequired hname hmissing =>
      have hmem : ⟨loc ++ [.name "required", .index i], .missingField name⟩ ∈ requiredProblems loc t 0 names :=
        mem_requiredProblems_iff.mpr ⟨i, name, hname, TableOf.find?_eq_none_iff.mpr hmissing, by rw [Nat.zero_add]⟩
      simp [ownProblems, hrequired, hmem]

end Tables

/-! ### Going through a shape -/

theorem propertyProblems_eq (loc : Location) (properties : List (String × Column)) :
    propertyProblems loc properties =
      properties.flatMap fun q => columnProblems (loc ++ [.name "properties", .name q.1]) q.2 := by
  induction properties with
  | nil => rfl
  | cons q rest ih => rw [propertyProblems, ih, List.flatMap_cons]

theorem tableProblems_eq (loc : Location) (t : Table) : tableProblems loc t =
    t.properties.flatMap (fun q => columnProblems (loc ++ [.name "properties", .name q.1]) q.2) ++
      ownProblems loc t := by
  obtain ⟨properties, required, primaryKey⟩ := t
  rw [tableProblems, propertyProblems_eq]

/-- The problems of a column are those of the table that it holds, or of its pointer. -/
theorem mem_columnProblems_iff {loc : Location} {column : Column} {p : Problem} : p ∈ columnProblems loc column ↔
    (∃ steps t, column.Holds steps t ∧ p ∈ tableProblems (loc ++ steps) t) ∨
      ∃ steps pointer, column.Points steps pointer ∧ p ∈ refProblems (loc ++ steps) pointer := by
  constructor
  · intro h
    cases column with
    | ref pointer => exact .inr ⟨_, _, .ref, by rwa [List.append_nil]⟩
    | value c => cases h
    | table t => exact .inl ⟨_, _, .table, by rwa [List.append_nil]⟩
    | array items =>
      cases items with
      | ref pointer => exact .inr ⟨_, _, .item, h⟩
      | value c => cases h
      | table t => exact .inl ⟨_, _, .item, h⟩
  · rintro (⟨steps, t, hholds, hp⟩ | ⟨steps, pointer, hpoints, hp⟩)
    · cases hholds with
      | table => rwa [List.append_nil] at hp
      | item => exact hp
    · cases hpoints with
      | ref => rwa [List.append_nil] at hp
      | item => exact hp

/-- The table that a column holds is that of a child of each node with the column. -/
theorem exists_child_of_holds {column : Column} {steps : Location} {t : Table} (h : column.Holds steps t)
    (w : Flat.Way) (key name : String) : ∃ c, Flat.Node.child? w key (name, column) = some c ∧ c.table = t := by
  cases h <;> exact ⟨_, rfl, rfl⟩

/-- What holds of a table whenever it holds of all tables in its properties holds of every table. -/
theorem Table.induction {P : Table → Prop} (step : ∀ t : Table, (∀ name column steps nested,
    (name, column) ∈ t.properties → column.Holds steps nested → P nested) → P t) (t : Table) : P t := by
  have hnode : ∀ n : Flat.Node, P n.table := by
    apply Flat.Node.induction
    intro n ih
    refine step n.table fun name column steps nested hp hholds => ?_
    obtain ⟨c, hc, rfl⟩ := exists_child_of_holds hholds n.way n.table.joinKey name
    exact ih c (List.mem_filterMap.mpr ⟨_, hp, hc⟩)
  exact hnode ⟨.root "", t⟩

namespace Database

variable {db : Database} {loc : Location} {t : Table} {p : Problem}

theorem TableAt.tableProblems_subset (h : db.TableAt loc t) : tableProblems loc t ⊆ db.problems := by
  induction h with
  | root ht => exact fun p hp => List.mem_flatMap.mpr ⟨_, ht, hp⟩
  | nested h hp hholds ih =>
    intro p hproblem
    apply ih
    rw [tableProblems_eq]
    refine List.mem_append_left _ (List.mem_flatMap.mpr ⟨_, hp, ?_⟩)
    exact mem_columnProblems_iff.mpr (.inl ⟨_, _, hholds, hproblem⟩)

theorem PointerAt.refProblems_subset {pointer : String} (h : db.PointerAt loc pointer) :
    refProblems loc pointer ⊆ db.problems := by
  obtain ⟨h, hp, hpoints⟩ := h
  intro p hproblem
  apply h.tableProblems_subset
  rw [tableProblems_eq]
  refine List.mem_append_left _ (List.mem_flatMap.mpr ⟨_, hp, ?_⟩)
  exact mem_columnProblems_iff.mpr (.inr ⟨_, _, hpoints, hproblem⟩)

/-- A problem at or below a table is one of a table or of a pointer there. -/
theorem exists_of_mem_tableProblems : ∀ (t : Table) (loc : Location), db.TableAt loc t → ∀ p ∈ tableProblems loc t,
    (∃ loc t, db.TableAt loc t ∧ p ∈ ownProblems loc t) ∨
      ∃ loc pointer, db.PointerAt loc pointer ∧ p ∈ refProblems loc pointer := by
  apply Table.induction
  intro t ih loc h p hproblem
  rw [tableProblems_eq, List.mem_append, List.mem_flatMap] at hproblem
  rcases hproblem with ⟨⟨name, column⟩, hp, hproblem⟩ | hproblem
  · rcases mem_columnProblems_iff.mp hproblem with
      ⟨steps, nested, hholds, hproblem⟩ | ⟨steps, pointer, hpoints, hproblem⟩
    · exact ih name column steps nested hp hholds _ (.nested h hp hholds) p hproblem
    · exact .inr ⟨_, _, .property h hp hpoints, hproblem⟩
  · exact .inl ⟨loc, t, h, hproblem⟩

/-- The problems of a shape are those of its tables and pointers. -/
theorem mem_problems_iff : p ∈ db.problems ↔ (∃ loc t, db.TableAt loc t ∧ p ∈ ownProblems loc t) ∨
    ∃ loc pointer, db.PointerAt loc pointer ∧ p ∈ refProblems loc pointer := by
  constructor
  · intro hproblem
    obtain ⟨⟨name, t⟩, ht, hproblem⟩ := List.mem_flatMap.mp hproblem
    exact exists_of_mem_tableProblems t _ (.root ht) p hproblem
  · rintro (⟨loc, t, h, hproblem⟩ | ⟨loc, pointer, h, hproblem⟩)
    · apply h.tableProblems_subset
      rw [tableProblems_eq]
      exact List.mem_append_right _ hproblem
    · exact h.refProblems_subset hproblem

/-- The table at a location is that of a node. -/
theorem TableAt.exists_node (h : db.TableAt loc t) : ∃ w : Flat.Way, ⟨w, t⟩ ∈ Flat.nodes db := by
  induction h with
  | @root name t ht =>
    have hroot : ⟨.root name, t⟩ ∈ Flat.roots db := List.mem_map.mpr ⟨_, ht, rfl⟩
    exact ⟨_, Flat.mem_nodes_iff.mpr ⟨_, hroot, Flat.Node.mem_subtree_self _⟩⟩
  | @nested loc steps t nested name column h hp hholds ih =>
    obtain ⟨w, hw⟩ := ih
    obtain ⟨c, hc, rfl⟩ := exists_child_of_holds hholds w t.joinKey name
    exact ⟨c.way, Flat.children_subset_nodes hw (List.mem_filterMap.mpr ⟨_, hp, hc⟩)⟩

/-- The problems of a shape whose nodes have properties of different names are its violations. -/
theorem mem_problems_iff_violation (h : ∀ n ∈ Flat.nodes db, n.Distinct) : p ∈ db.problems ↔ db.Violation p := by
  have hnames : ∀ {loc t}, db.TableAt loc t → (t.properties.map Prod.fst).Nodup := by
    intro loc t ht
    obtain ⟨w, hw⟩ := ht.exists_node
    exact h _ hw
  rw [mem_problems_iff]
  constructor
  · rintro (⟨loc, t, ht, hproblem⟩ | ⟨loc, pointer, hpointer, hproblem⟩)
    · exact .table ht ((mem_ownProblems_iff (hnames ht)).mp hproblem)
    · exact .pointer hpointer (mem_refProblems_iff.mp hproblem)
  · rintro (⟨ht, hviolation⟩ | ⟨hpointer, hviolation⟩)
    · exact .inl ⟨_, _, ht, (mem_ownProblems_iff (hnames ht)).mpr hviolation⟩
    · exact .inr ⟨_, _, hpointer, mem_refProblems_iff.mpr hviolation⟩

end Database

end ShapeTables.Shape
