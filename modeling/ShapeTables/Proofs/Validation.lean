import ShapeTables.Proofs.Stages
import ShapeTables.Proofs.Violations

/-! What is reported of shapes. Each violation is reported, and nothing else; no two problems have the same location,
except that a pointer can break both rules for pointers. Nothing is reported exactly when every table and every
pointer keeps the rules. -/
namespace ShapeTables.Shape

/-- Problems at different locations, or the two problems of a pointer. -/
def Apart (p q : Problem) : Prop :=
  p.loc ≠ q.loc ∨ p.cause = .pointerForm .noLead ∧ q.cause = .pointerForm .noColumn

theorem Apart.ne {p q : Problem} (h : Apart p q) : p ≠ q := by
  rintro rfl
  rcases h with h | ⟨hlead, hcolumn⟩
  · exact h rfl
  · rw [hlead] at hcolumn
    cases hcolumn

/-! ### Locations of problems -/

section Locations

variable {loc : Location} {t : Table} {p : Problem}

/-- Problems that lie strictly below a location. -/
def Below (loc : Location) (p : Problem) : Prop := ∃ step rest, p.loc = loc ++ step :: rest

theorem Below.of_append {steps : Location} (h : Below (loc ++ steps) p) : Below loc p := by
  obtain ⟨step, rest, h⟩ := h
  cases steps with
  | nil => exact ⟨step, rest, by rw [h, List.append_nil]⟩
  | cons first steps => exact ⟨first, steps ++ step :: rest, by simp [h]⟩

theorem below_of_mem_refProblems {pointer : String} (h : p ∈ refProblems loc pointer) : Below loc p := by
  obtain ⟨problem, -, rfl⟩ := List.mem_map.mp h
  exact ⟨_, _, rfl⟩

theorem loc_of_mem_impliedKeyProblems (h : p ∈ impliedKeyProblems loc t) :
    ∃ name, p.loc = loc ++ [.name "properties", .name name] := by
  unfold impliedKeyProblems at h
  split at h
  · obtain ⟨problem, -, rfl⟩ := List.mem_map.mp h
    exact ⟨_, rfl⟩
  · obtain ⟨nested, -, rfl⟩ := List.mem_map.mp h
    exact ⟨_, rfl⟩

theorem loc_of_mem_namedKeyProblems {key : String} (h : p ∈ namedKeyProblems loc t key) :
    p.loc = loc ++ [.name "x-primaryKey"] := by
  unfold namedKeyProblems at h
  split at h
  · rw [List.mem_singleton.mp h]
  · obtain ⟨problem, -, rfl⟩ := List.mem_map.mp h
    rfl

theorem loc_of_mem_requiredProblems {start : Nat} {names : List String} (h : p ∈ requiredProblems loc t start names) :
    ∃ i : Nat, start ≤ i ∧ p.loc = loc ++ [.name "required", .index i] := by
  obtain ⟨i, name, -, -, rfl⟩ := mem_requiredProblems_iff.mp h
  exact ⟨start + i, Nat.le_add_right start i, rfl⟩

/-- The own problems of a table are at its key, at one of its required fields or at one of its properties. -/
theorem loc_of_mem_ownProblems (h : p ∈ ownProblems loc t) : p.loc = loc ++ [.name "x-primaryKey"] ∨
    (∃ i : Nat, p.loc = loc ++ [.name "required", .index i]) ∨
      ∃ name, p.loc = loc ++ [.name "properties", .name name] := by
  unfold ownProblems at h
  rcases List.mem_append.mp h with h | h
  · rcases List.mem_append.mp h with h | h
    · split at h
      · cases h
      · exact .inr (.inr (loc_of_mem_impliedKeyProblems h))
    · obtain ⟨i, -, hi⟩ := loc_of_mem_requiredProblems h
      exact .inr (.inl ⟨i, hi⟩)
  · split at h
    · exact .inl (loc_of_mem_namedKeyProblems h)
    · cases h

theorem below_of_mem_ownProblems (h : p ∈ ownProblems loc t) : Below loc p := by
  rcases loc_of_mem_ownProblems h with h | ⟨i, h⟩ | ⟨name, h⟩ <;> exact ⟨_, _, h⟩

theorem below_of_mem_tableProblems : ∀ (t : Table) (loc : Location), ∀ p ∈ tableProblems loc t, Below loc p := by
  apply Table.induction
  intro t ih loc p h
  rw [tableProblems_eq, List.mem_append, List.mem_flatMap] at h
  rcases h with ⟨⟨name, column⟩, hp, h⟩ | h
  · rcases mem_columnProblems_iff.mp h with ⟨steps, nested, hholds, h⟩ | ⟨steps, pointer, -, h⟩
    · exact (ih name column steps nested hp hholds _ p h).of_append.of_append
    · exact (below_of_mem_refProblems h).of_append.of_append
  · exact below_of_mem_ownProblems h

theorem below_of_mem_columnProblems {column : Column} (h : p ∈ columnProblems loc column) : Below loc p := by
  rcases mem_columnProblems_iff.mp h with ⟨steps, nested, -, h⟩ | ⟨steps, pointer, -, h⟩
  · exact (below_of_mem_tableProblems nested _ p h).of_append
  · exact (below_of_mem_refProblems h).of_append

end Locations

/-! ### Problems that stand apart -/

section Apart

variable {loc : Location} {t : Table}

theorem pairwise_map_toList {α : Type} (o : Option α) (f : α → Problem) : (o.toList.map f).Pairwise Apart := by
  cases o <;> simp

theorem pairwise_refProblems (loc : Location) (pointer : String) : (refProblems loc pointer).Pairwise Apart := by
  have happart : Apart ⟨loc ++ [.name "$ref"], .pointerForm .noLead⟩ ⟨loc ++ [.name "$ref"], .pointerForm .noColumn⟩ :=
    .inr ⟨rfl, rfl⟩
  rw [refProblems, Pointer.problems]
  split <;> split <;> simp [happart]

theorem pairwise_requiredProblems (start : Nat) (names : List String) :
    (requiredProblems loc t start names).Pairwise Apart := by
  induction names generalizing start with
  | nil => exact .nil
  | cons name rest ih =>
    rw [requiredProblems]
    split
    · exact ih _
    · refine List.pairwise_cons.mpr ⟨fun q hq => .inl ?_, ih _⟩
      obtain ⟨i, hi, hloc⟩ := loc_of_mem_requiredProblems hq
      rw [hloc]
      simp
      omega

theorem pairwise_impliedKeyProblems : (impliedKeyProblems loc t).Pairwise Apart := by
  unfold impliedKeyProblems
  split <;> exact pairwise_map_toList _ _

theorem pairwise_namedKeyProblems (key : String) : (namedKeyProblems loc t key).Pairwise Apart := by
  unfold namedKeyProblems
  split
  · exact List.pairwise_singleton _ _
  · exact pairwise_map_toList _ _

theorem pairwise_ownProblems : (ownProblems loc t).Pairwise Apart := by
  have hrequired : (requiredProblems loc t 0 (t.required.getD [])).Pairwise Apart := pairwise_requiredProblems _ _
  unfold ownProblems
  cases t.explicitKey? with
  | some key =>
    refine List.pairwise_append.mpr ⟨hrequired, pairwise_namedKeyProblems key, fun p hp q hq => .inl ?_⟩
    obtain ⟨i, -, hloc⟩ := loc_of_mem_requiredProblems hp
    simp [hloc, loc_of_mem_namedKeyProblems hq]
  | none =>
    rw [List.append_nil]
    refine List.pairwise_append.mpr ⟨pairwise_impliedKeyProblems, hrequired, fun p hp q hq => .inl ?_⟩
    obtain ⟨name, hname⟩ := loc_of_mem_impliedKeyProblems hp
    obtain ⟨i, -, hloc⟩ := loc_of_mem_requiredProblems hq
    simp [hname, hloc]

/-- The problems of a column stand apart if those of the table that it holds do. -/
theorem pairwise_columnProblems {column : Column}
    (h : ∀ steps t, column.Holds steps t → (tableProblems (loc ++ steps) t).Pairwise Apart) :
    (columnProblems loc column).Pairwise Apart := by
  cases column with
  | ref pointer => exact pairwise_refProblems loc pointer
  | value c => exact .nil
  | table t => simpa [columnProblems] using h _ _ .table
  | array items =>
    cases items with
    | ref pointer => exact pairwise_refProblems _ pointer
    | value c => exact .nil
    | table t => exact h _ _ .item

/-- What lies below different properties is at different locations. -/
theorem pairwise_below {α : Type} {things : List (String × α)} (hnames : (things.map Prod.fst).Nodup)
    {problems : String × α → List Problem}
    (hbelow : ∀ q, ∀ p ∈ problems q, Below (loc ++ [.name "properties", .name q.1]) p)
    (h : ∀ q ∈ things, (problems q).Pairwise Apart) : (things.flatMap problems).Pairwise Apart := by
  refine List.pairwise_flatMap.mpr ⟨h, (List.pairwise_map.mp hnames).imp fun hne p hp q hq => .inl fun heq => hne ?_⟩
  obtain ⟨step, rest, hp⟩ := hbelow _ p hp
  obtain ⟨step', rest', hq⟩ := hbelow _ q hq
  rw [hp, hq] at heq
  simp only [List.append_assoc, List.append_cancel_left_eq, List.cons_append, List.nil_append, List.cons.injEq,
    Step.name.injEq, true_and] at heq
  exact heq.1

theorem pairwise_tableProblems : ∀ n : Flat.Node, (∀ m ∈ n.subtree, m.Distinct) → ∀ loc : Location,
    (tableProblems loc n.table).Pairwise Apart := by
  apply Flat.Node.induction
  intro n ih hdistinct loc
  have hcolumns : ∀ q ∈ n.table.properties,
      (columnProblems (loc ++ [.name "properties", .name q.1]) q.2).Pairwise Apart := by
    rintro ⟨name, column⟩ hq
    refine pairwise_columnProblems fun steps t hholds => ?_
    obtain ⟨c, hc, rfl⟩ := exists_child_of_holds hholds n.way n.table.joinKey name
    have hmem : c ∈ n.children := List.mem_filterMap.mpr ⟨_, hq, hc⟩
    exact ih c hmem (fun m hm => hdistinct m (Flat.Node.subtree_subset_of_mem_children hmem hm)) _
  have hbelow : ∀ q : String × Column, ∀ p ∈ columnProblems (loc ++ [.name "properties", .name q.1]) q.2,
      Below (loc ++ [.name "properties", .name q.1]) p := fun q p hp => below_of_mem_columnProblems hp
  rw [tableProblems_eq]
  refine List.pairwise_append.mpr
    ⟨pairwise_below (hdistinct n n.mem_subtree_self) hbelow hcolumns, pairwise_ownProblems, fun p hp p' hp' => .inl ?_⟩
  -- an own problem is at a property at the most, not below it
  obtain ⟨q, -, hq⟩ := List.mem_flatMap.mp hp
  obtain ⟨step, rest, hloc⟩ := hbelow q p hq
  rcases loc_of_mem_ownProblems hp' with hloc' | ⟨i, hloc'⟩ | ⟨name, hloc'⟩ <;> simp [hloc, hloc']

end Apart

/-- The tables of a shape that is read have different names. -/
theorem tables_nodup_of_read {document : Value} {db : Database} (h : read document = .ok db) :
    (db.tables.map Prod.fst).Nodup := by
  obtain ⟨_, _, found, -, -, -, hnamed⟩ := read_cases h
  rw [hnamed]
  exact named_nodup found

theorem pairwise_problems {document : Value} {db : Database} (h : read document = .ok db) :
    db.problems.Pairwise Apart := by
  have hbelow : ∀ q : String × Table, ∀ p ∈ tableProblems [.name "properties", .name q.1] q.2,
      Below ([] ++ [.name "properties", .name q.1]) p := fun q p hp => below_of_mem_tableProblems _ _ p hp
  refine pairwise_below (tables_nodup_of_read h) hbelow fun q hq => ?_
  refine pairwise_tableProblems ⟨.root q.1, q.2⟩ (fun m hm => ?_) _
  exact Flat.distinct_of_read h m (Flat.mem_nodes_iff.mpr ⟨_, List.mem_map_of_mem hq, hm⟩)

/-! ### Lawful shapes -/

/-- Columns that can be keys. -/
def Column.Fit (column : Column) : Prop := ∀ problem, ¬column.Unfit problem

/-- Tables that keep the rules for tables. -/
structure TableOf.Lawful (t : Table) : Prop where
  /-- Without another key, id is the key and has to be fit for that. -/
  implied : t.Unkeyed → ∀ column, ("id", column) ∈ t.properties → column.Fit
  known : ∀ key, t.primaryKey = some key → key ≠ "" → ∃ column, (key, column) ∈ t.properties
  named : ∀ key, t.primaryKey = some key → key ≠ "" → ∀ column, (key, column) ∈ t.properties → column.Fit
  /-- What makes tables of its own needs a key to point at. -/
  keyed : t.Unkeyed → (∀ column, ("id", column) ∉ t.properties) → ∀ p ∈ t.properties, ∀ type, ¬p.2.Nested type
  required : ∀ names, t.required = some names → ∀ name ∈ names, ∃ column, (name, column) ∈ t.properties

theorem firstNested?_eq_none_iff {properties : List (String × Column)} :
    firstNested? properties = none ↔ ∀ p ∈ properties, ∀ type, ¬p.2.Nested type := by
  rw [firstNested?, List.findSome?_eq_none_iff]
  refine forall₂_congr fun p _ => ?_
  rw [Option.map_eq_none_iff, nestedType?_eq_none_iff]

theorem lawful_iff (loc : Location) {t : Table} : t.Lawful ↔ ∀ p, ¬TableViolation loc t p := by
  constructor
  · intro h p hp
    cases hp with
    | idKey hkey hid hunfit => exact h.implied hkey _ hid _ hunfit
    | unknownKey hkey hne hmissing =>
      obtain ⟨column, hcolumn⟩ := h.known _ hkey hne
      exact hmissing column hcolumn
    | namedKey hkey hne hcolumn hunfit => exact h.named _ hkey hne _ hcolumn _ hunfit
    | keyless hkey hid hsplit hnested _ =>
      exact h.keyed hkey hid _ (hsplit ▸ List.mem_append_right _ List.mem_cons_self) _ hnested
    | missingField hrequired hname hmissing =>
      obtain ⟨column, hcolumn⟩ := h.required _ hrequired _ (List.mem_of_getElem? hname)
      exact hmissing column hcolumn
  · intro h
    refine ⟨?_, ?_, ?_, ?_, ?_⟩
    · exact fun hkey column hid problem hunfit => h _ (.idKey hkey hid hunfit)
    · intro key hkey hne
      by_contra hmissing
      exact h _ (.unknownKey hkey hne (not_exists.mp hmissing))
    · exact fun key hkey hne column hcolumn problem hunfit => h _ (.namedKey hkey hne hcolumn hunfit)
    · intro hkey hid
      rw [← firstNested?_eq_none_iff, Option.eq_none_iff_forall_ne_some]
      rintro ⟨name, type⟩ hfirst
      obtain ⟨before, column, after, hsplit, hnested, hbefore⟩ := firstNested?_eq_some_iff.mp hfirst
      exact h _ (.keyless hkey hid hsplit hnested hbefore)
    · intro names hrequired name hname
      obtain ⟨i, hi⟩ := List.mem_iff_getElem?.mp hname
      by_contra hmissing
      exact h _ (.missingField hrequired hi (not_exists.mp hmissing))

theorem leads_and_names_iff (loc : Location) {pointer : String} :
    Pointer.Leads pointer ∧ Pointer.Names pointer ↔ ∀ p, ¬PointerViolation loc pointer p := by
  constructor
  · rintro ⟨hleads, hnames⟩ p (h | h)
    · exact h hleads
    · exact h hnames
  · intro h
    constructor
    · by_contra hleads
      exact h _ (.noLead hleads)
    · by_contra hnames
      exact h _ (.noColumn hnames)

/-- The problems of a shape that is read are its violations, each of them told once and at a location of its own; there
are none exactly when all tables and pointers in it keep the rules. -/
theorem problems_exact {document : Value} {db : Database} (h : readShape document = .ok db) :
    db.problems.Nodup ∧ db.problems.Pairwise Apart ∧ (∀ p, p ∈ db.problems ↔ db.Violation p) ∧
      (db.problems = [] ↔ (∀ loc t, db.TableAt loc t → t.Lawful) ∧
        ∀ loc pointer, db.PointerAt loc pointer → Pointer.Leads pointer ∧ Pointer.Names pointer) := by
  have hread := readShape_eq_ok_iff.mp h
  have hapart := pairwise_problems hread
  have hmem : ∀ p, p ∈ db.problems ↔ db.Violation p := fun p =>
    Database.mem_problems_iff_violation (Flat.distinct_of_read hread)
  refine ⟨hapart.imp Apart.ne, hapart, hmem, ?_⟩
  rw [List.eq_nil_iff_forall_not_mem]
  constructor
  · intro hnone
    refine ⟨fun loc t ht => (lawful_iff loc).mpr fun p hp => ?_,
      fun loc pointer hpointer => (leads_and_names_iff loc).mpr fun p hp => ?_⟩
    · exact hnone p ((hmem p).mpr (.table ht hp))
    · exact hnone p ((hmem p).mpr (.pointer hpointer hp))
  · rintro ⟨htables, hpointers⟩ p hp
    rcases (hmem p).mp hp with ⟨ht, hp⟩ | ⟨hpointer, hp⟩
    · exact (lawful_iff _).mp (htables _ _ ht) p hp
    · exact (leads_and_names_iff _).mp (hpointers _ _ hpointer) p hp

/-- Users without a key, with tags, a field that is required but missing and a pointer that breaks both rules. -/
def faulty : Value := objectOf
  [("users", .object [("type", .text "object"), ("required", .texts ["nick"]),
    ("properties", .object [("tags", arrayOf (typed "string")), ("friend", pointing "users")])])]

theorem problems_exact_faulty : ∃ db, readShape faulty = .ok db ∧ db.problems.length = 4 ∧
    db.problems.Nodup ∧ db.problems.Pairwise Apart ∧ (∀ p, p ∈ db.problems ↔ db.Violation p) ∧
      (db.problems = [] ↔ (∀ loc t, db.TableAt loc t → t.Lawful) ∧
        ∀ loc pointer, db.PointerAt loc pointer → Pointer.Leads pointer ∧ Pointer.Names pointer) := by
  have hread : ∃ db, readShape faulty = .ok db ∧ db.problems.length = 4 := ⟨_, rfl, rfl⟩
  obtain ⟨db, hread, hlength⟩ := hread
  exact ⟨db, hread, hlength, problems_exact hread⟩

end ShapeTables.Shape
