import Mathlib.Data.List.Nodup
import ShapeTables.Proofs.Labels
import ShapeTables.Proofs.Stages

/-! Which tables can be written as a script, and what the script then is. Each part of a script stands or falls by
a condition on the tables that it is about; for tables of different names, a script can be written exactly when
all of them hold, and it is made of the statements for each table and then those for each foreign key. -/
namespace ShapeTables.Sql

open Flat (ForeignKey ResolvedTable Target)

variable {t : ResolvedTable} {tables : List ResolvedTable}

/-! ### Creating tables -/

theorem checkNames_eq_ok_iff {table : String} {seen names : List String} {u : Unit} :
    checkNames table seen names = .ok u ↔ "" ∉ names ∧ names.Nodup ∧ ∀ name ∈ names, name ∉ seen := by
  induction names generalizing seen with
  | nil => simp [checkNames]
  | cons name rest ih =>
    rw [checkNames]
    split
    · next hempty => simp [String.isEmpty_iff.mp hempty]
    · next hempty =>
      have hne : "" ≠ name := fun h => hempty (h ▸ rfl)
      split
      · next hseen => simp [hseen]
      · next hseen =>
        simp only [ih, List.mem_cons, not_or, List.nodup_cons]
        grind

theorem isSome_findColumn?_iff {name : String} :
    (t.findColumn? name).isSome ↔ name ∈ t.columns.map (·.name) := by
  simp [Flat.Table.findColumn?, List.find?_isSome]

/-- Tables whose own columns can be told apart, with the key among them. -/
structure Definable (t : ResolvedTable) : Prop where
  named : "" ∉ t.columns.map (·.name)
  nodup : (t.columns.map (·.name)).Nodup
  keyed : ∀ key, keyOf? t = some key → key ∈ t.columns.map (·.name)

theorem definable_iff : Definable t ↔ (∃ u, checkNames t.name [] (t.columns.map (·.name)) = .ok u) ∧
    ∀ key, keyOf? t = some key → (t.findColumn? key).isSome := by
  simp only [checkNames_eq_ok_iff, isSome_findColumn?_iff, List.not_mem_nil, not_false_iff, implies_true, and_true]
  constructor
  · intro h
    exact ⟨⟨(), h.named, h.nodup⟩, h.keyed⟩
  · rintro ⟨⟨-, hnamed, hnodup⟩, hkeyed⟩
    exact ⟨hnamed, hnodup, hkeyed⟩

theorem define_eq_ok_iff {spec : TableSpec} : define t = .ok spec ↔ Definable t ∧ spec = tableSpec t := by
  rw [definable_iff, define, bind_eq_ok_iff, and_assoc, ← exists_and_right, @eq_comm _ spec]
  refine exists_congr fun _ => and_congr_right fun _ => ?_
  cases hkey : keyOf? t with
  | none => simp [pure, Except.pure]
  | some key =>
    cases hcolumn : t.findColumn? key <;>
      simp [hcolumn, throw, throwThe, MonadExceptOf.throw, bind, Except.bind, pure, Except.pure]

/-- Tables of whose constants every integer can be written. -/
structure Writable (t : ResolvedTable) : Prop where
  defaults : ∀ c ∈ t.columns, ∀ value ∈ c.default, isWritable value
  allowed : ∀ c ∈ t.columns, ∀ values ∈ c.enum, ∀ value ∈ values, isWritable value

private theorem check_eq_ok_iff {b : Bool} {e : ScriptError} {u : Unit} :
    (if b then .ok () else .error e) = Except.ok u ↔ b := by
  split <;> simp [*]

theorem checkDefaults_eq_ok_iff {u : Unit} :
    checkDefaults t = .ok u ↔ ∀ c ∈ t.columns, ∀ value ∈ c.default, isWritable value := by
  rw [checkDefaults, check_eq_ok_iff, List.all_eq_true]
  exact forall₂_congr fun c _ => Option.all_eq_true _ _

theorem checkAllowed_eq_ok_iff {u : Unit} :
    checkAllowed t = .ok u ↔ ∀ c ∈ t.columns, ∀ values ∈ c.enum, ∀ value ∈ values, isWritable value := by
  rw [checkAllowed, check_eq_ok_iff, List.all_eq_true]
  refine forall₂_congr fun c _ => ?_
  cases c.enum <;> simp

section Fresh

variable {α : Type} {name : α → String} {found : List α} {x : α}

/-- When the names of the tables differ from each other and from those of what is found, the first of them is not
found, and the others still differ when it is. -/
private theorem fresh_of_cons (hnodup : ((t :: tables).map (·.name)).Nodup)
    (hfresh : ∀ t' ∈ t :: tables, ∀ y ∈ found, name y ≠ t'.name) (hx : name x = t.name) :
    found.find? (fun y => name y = t.name) = none ∧ ∀ t' ∈ tables, ∀ y ∈ found ++ [x], name y ≠ t'.name := by
  constructor
  · rw [List.find?_eq_none]
    intro y hy
    simpa using hfresh t List.mem_cons_self y hy
  · intro t' ht' y hy
    rcases List.mem_append.mp hy with hy | hy
    · exact hfresh t' (List.mem_cons_of_mem _ ht') y hy
    · rw [List.mem_singleton.mp hy, hx]
      exact fun heq => (List.nodup_cons.mp hnodup).1 (List.mem_map.mpr ⟨t', ht', heq.symm⟩)

end Fresh

/-- Tables whose names differ from each other and from those of the tables before them are created exactly when
each of them can be defined and written, one after another. -/
theorem createAll_eq_ok_iff {d : Dialect} {defined : List TableSpec} {statements : List Statement}
    (hnodup : (tables.map (·.name)).Nodup) (hfresh : ∀ t ∈ tables, ∀ spec ∈ defined, spec.name ≠ t.name) :
    createAll d defined tables = .ok statements ↔ (∀ t ∈ tables, Definable t ∧ Writable t) ∧
      statements = tables.flatMap fun t => createStatements d (tableSpec t) := by
  induction tables generalizing defined statements with
  | nil => simp [createAll, eq_comm]
  | cons t rest ih =>
    obtain ⟨hnone, hrest⟩ := fresh_of_cons (x := tableSpec t) hnodup hfresh rfl
    have ih : ∀ {others : List Statement}, createAll d (defined ++ [tableSpec t]) rest = .ok others ↔
        (∀ t ∈ rest, Definable t ∧ Writable t) ∧ others = rest.flatMap fun t => createStatements d (tableSpec t) :=
      ih (List.nodup_cons.mp hnodup).2 hrest
    rw [createAll, hnone]
    simp only [bind_eq_ok_iff, define_eq_ok_iff, checkDefaults_eq_ok_iff, checkAllowed_eq_ok_iff, pure, Except.pure,
      Except.ok.injEq, List.flatMap_cons]
    constructor
    · rintro ⟨-, hdefaults, spec, ⟨hdefinable, rfl⟩, -, hallowed, others, hothers, rfl⟩
      obtain ⟨h, rfl⟩ := ih.mp hothers
      exact ⟨List.forall_mem_cons.mpr ⟨⟨hdefinable, hdefaults, hallowed⟩, h⟩, rfl⟩
    · rintro ⟨h, rfl⟩
      obtain ⟨⟨hdefinable, hwritable⟩, h⟩ := List.forall_mem_cons.mp h
      exact ⟨(), hwritable.defaults, _, ⟨hdefinable, rfl⟩, (), hwritable.allowed, _, ih.mpr ⟨h, rfl⟩, rfl⟩

/-! ### Adding foreign keys -/

/-- Tables of different names can be referred to exactly when the columns and foreign keys of each can be told
apart. -/
theorem referables_eq_ok_iff {found result : List Referable} (hnodup : (tables.map (·.name)).Nodup)
    (hfresh : ∀ t ∈ tables, ∀ r ∈ found, r.name ≠ t.name) : referables found tables = .ok result ↔
      (∀ t ∈ tables, "" ∉ (referable t).columns ∧ (referable t).columns.Nodup) ∧
        result = found ++ tables.map referable := by
  induction tables generalizing found with
  | nil => simp [referables, eq_comm]
  | cons t rest ih =>
    obtain ⟨hnone, hrest⟩ := fresh_of_cons (x := referable t) hnodup hfresh rfl
    rw [referables, hnone]
    simp only [bind_eq_ok_iff, checkNames_eq_ok_iff, ih (List.nodup_cons.mp hnodup).2 hrest, List.forall_mem_cons,
      List.not_mem_nil, not_false_iff, implies_true, and_true, exists_const, and_assoc, List.map_cons,
      List.append_assoc, List.singleton_append]

/-- What a foreign key looks for is there: its label is that of a column or foreign key without a dot. -/
def Found (tables : List ResolvedTable) (k : ForeignKey) : Prop :=
  ∃ r ∈ tables, ∃ column ∈ (referable r).columns, '.' ∉ column.toList ∧ label ⟨r.name, column⟩ = label k.target

/-- Of things with different names, the first of a name is the only one. -/
theorem find?_eq_some_iff_of_nodup {α : Type} {name : α → String} {xs : List α} (h : (xs.map name).Nodup)
    {s : String} {x : α} : xs.find? (fun y => name y = s) = some x ↔ x ∈ xs ∧ name x = s := by
  constructor
  · intro hfind
    exact ⟨List.mem_of_find?_eq_some hfind, by simpa using List.find?_some hfind⟩
  · rintro ⟨hx, rfl⟩
    induction xs with
    | nil => simp at hx
    | cons y ys ih =>
      obtain ⟨hy, hys⟩ := List.nodup_cons.mp h
      rcases List.mem_cons.mp hx with rfl | hx
      · simp
      · have hne : name y ≠ name x := fun heq => hy (heq ▸ List.mem_map_of_mem hx)
        rw [List.find?_cons_of_neg (by simpa using hne), ih hys hx]

/-- A label of a target that is found is taken for a column or foreign key of one of the tables. -/
theorem found_iff_labelled {k : ForeignKey} : Found tables k ↔
    ∃ r ∈ tables, ∃ column ∈ (referable r).columns, labelled (label k.target) = ⟨r.name, column⟩ := by
  simp only [Found, labelled_label_eq_iff]

/-- The statements for a foreign key, whose target is the one that its label is taken for. -/
def keyStatements (t : ResolvedTable) (k : ForeignKey) : List Statement :=
  [.addColumn t.name (foreignKeySpec t k), .addForeignKey t.name k.name (labelled (label k.target))] ++
    if k.oneToMany then [] else [.addUnique t.name k.name]

/-- The statements for a foreign key, if there are any, do not depend on what it can refer to. -/
theorem eq_keyStatements {found : List Referable} {k : ForeignKey} {statements : List Statement}
    (h : foreignKeyStatements found t k = .ok statements) : statements = keyStatements t k := by
  rw [foreignKeyStatements] at h
  split at h
  · cases h
  · split at h
    · exact (Except.ok.inj h).symm
    · cases h

theorem foreignKeyStatements_eq_ok_iff {k : ForeignKey} {statements : List Statement}
    (hnodup : (tables.map (·.name)).Nodup) :
    foreignKeyStatements (tables.map referable) t k = .ok statements ↔
      Found tables k ∧ statements = keyStatements t k := by
  have hnodup' : ((tables.map referable).map (·.name)).Nodup := by rwa [List.map_map]
  rw [found_iff_labelled, foreignKeyStatements, keyStatements]
  generalize labelled (label k.target) = sought
  constructor
  · intro h
    split at h
    · cases h
    · next r' hfind =>
      obtain ⟨hmem, hname⟩ := (find?_eq_some_iff_of_nodup hnodup').mp hfind
      obtain ⟨r, hr, rfl⟩ := List.mem_map.mp hmem
      split at h
      · next hcolumn =>
        have hsought : sought = ⟨r.name, sought.column⟩ := congrArg (Target.mk · sought.column) hname.symm
        exact ⟨⟨r, hr, _, hcolumn, hsought⟩, (Except.ok.inj h).symm⟩
      · cases h
  · rintro ⟨⟨r, hr, column, hcolumn, rfl⟩, rfl⟩
    have hfind : (tables.map referable).find? (fun r' => r'.name = r.name) = some (referable r) :=
      (find?_eq_some_iff_of_nodup hnodup').mpr ⟨List.mem_map_of_mem hr, rfl⟩
    simp only [hfind, if_pos hcolumn]

theorem foreignKeysAll_eq_ok_iff {keys : List (ResolvedTable × ForeignKey)} {statements : List Statement}
    (hnodup : (tables.map (·.name)).Nodup) : foreignKeysAll (tables.map referable) keys = .ok statements ↔
      (∀ p ∈ keys, Found tables p.2) ∧ statements = keys.flatMap fun p => keyStatements p.1 p.2 := by
  induction keys generalizing statements with
  | nil => simp [foreignKeysAll, eq_comm]
  | cons p rest ih =>
    rw [List.forall_mem_cons, List.flatMap_cons, foreignKeysAll]
    simp only [bind_eq_ok_iff, foreignKeyStatements_eq_ok_iff hnodup, ih, pure, Except.pure, Except.ok.injEq]
    constructor
    · rintro ⟨_, ⟨hfound, rfl⟩, _, ⟨hrest, rfl⟩, rfl⟩
      exact ⟨⟨hfound, hrest⟩, rfl⟩
    · rintro ⟨⟨hfound, hrest⟩, rfl⟩
      exact ⟨_, ⟨hfound, rfl⟩, _, ⟨hrest, rfl⟩, rfl⟩

/-- Tables of which all parts of a script can be written. -/
structure Scriptable (tables : List ResolvedTable) (t : ResolvedTable) : Prop where
  definable : Definable t
  writable : Writable t
  named : "" ∉ (referable t).columns
  nodup : (referable t).columns.Nodup
  found : ∀ k ∈ t.foreignKeys, Found tables k

/-- The statements for tables: those that create them, and then those for their foreign keys. -/
def statementsFor (d : Dialect) (tables : List ResolvedTable) : List Statement :=
  (tables.flatMap fun t => createStatements d (tableSpec t)) ++
    tables.flatMap fun t => t.foreignKeys.flatMap (keyStatements t)

/-- A script for tables of different names can be written exactly when all its parts can. -/
theorem script_eq_ok_iff {d : Dialect} {statements : List Statement} (hnodup : (tables.map (·.name)).Nodup) :
    script d tables = .ok statements ↔
      (∀ t ∈ tables, Scriptable tables t) ∧ statements = statementsFor d tables := by
  have hcreated : ∀ created, createAll d [] tables = .ok created ↔ (∀ t ∈ tables, Definable t ∧ Writable t) ∧
      created = tables.flatMap fun t => createStatements d (tableSpec t) :=
    fun _ => createAll_eq_ok_iff hnodup (by simp)
  have hreferables : ∀ result, referables [] tables = .ok result ↔
      (∀ t ∈ tables, "" ∉ (referable t).columns ∧ (referable t).columns.Nodup) ∧ result = tables.map referable :=
    fun _ => referables_eq_ok_iff hnodup (by simp)
  have hkeys : (tables.flatMap fun t => t.foreignKeys.map (t, ·)).flatMap (fun p => keyStatements p.1 p.2) =
      tables.flatMap fun t => t.foreignKeys.flatMap (keyStatements t) := by
    simp only [List.flatMap_assoc, List.flatMap_map]
  simp only [script, bind_eq_ok_iff, hcreated, hreferables, pure, Except.pure, Except.ok.injEq]
  constructor
  · rintro ⟨_, ⟨hcreate, rfl⟩, _, ⟨hnames, rfl⟩, _, hall, rfl⟩
    obtain ⟨hfound, rfl⟩ := (foreignKeysAll_eq_ok_iff hnodup).mp hall
    simp only [List.forall_mem_flatMap, List.forall_mem_map] at hfound
    refine ⟨fun t ht => ?_, by rw [hkeys, statementsFor]⟩
    exact ⟨(hcreate t ht).1, (hcreate t ht).2, (hnames t ht).1, (hnames t ht).2, hfound t ht⟩
  · rintro ⟨h, rfl⟩
    have hfound : ∀ p ∈ tables.flatMap fun t => t.foreignKeys.map (t, ·), Found tables p.2 := by
      simpa only [List.forall_mem_flatMap, List.forall_mem_map] using fun t ht => (h t ht).found
    refine ⟨_, ⟨fun t ht => ⟨(h t ht).definable, (h t ht).writable⟩, rfl⟩, _,
      ⟨fun t ht => ⟨(h t ht).named, (h t ht).nodup⟩, rfl⟩, _, (foreignKeysAll_eq_ok_iff hnodup).mpr ⟨hfound, rfl⟩, ?_⟩
    rw [hkeys, statementsFor]

theorem exists_script_iff {d : Dialect} (hnodup : (tables.map (·.name)).Nodup) :
    (∃ statements, script d tables = .ok statements) ↔ ∀ t ∈ tables, Scriptable tables t := by
  simp only [script_eq_ok_iff hnodup, exists_and_left, exists_eq, and_true]

theorem generate_eq_ok_iff {style : Style} {texts : List String} : generate style tables = .ok texts ↔
    ∃ statements, script style.dialect tables = .ok statements ∧ texts = statements.map (·.render style) := by
  rw [generate]
  cases script style.dialect tables <;> simp [Except.map, eq_comm]

end ShapeTables.Sql
