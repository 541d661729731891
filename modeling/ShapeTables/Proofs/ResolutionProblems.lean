import ShapeTables.Proofs.AddedTable

/-! What resolution reports, and in which order. First come the tables whose name a table before them has, then, table by
table, the references that lead nowhere: there is no table of the name, or the first one of it has no column of the name
or one of a type that cannot be a key. Whether a reference fails is said by the first table and the first column of a
name, without regard to how they are looked up. If nothing is reported, the tables are left as they are and each reference
has its foreign key. -/
namespace ShapeTables.Flat

/-! ### What is reported -/

/-- The first thing of a name. -/
def FirstNamed {α : Type} (name : α → String) (s : String) (things : List α) (x : α) : Prop :=
  ∃ before after, things = before ++ x :: after ∧ name x = s ∧ ∀ y ∈ before, name y ≠ s

namespace Reference

/-- The name of the table that a reference points at. -/
def table (r : Reference) : String := (Shape.Pointer.split r.pointer).1

def column (r : Reference) : String := (Shape.Pointer.split r.pointer).2

/-- A reference that leads to a column of a type that can be a key, with the foreign key that it stands for. -/
inductive Resolves (tables : List Table) (r : Reference) : ForeignKey → Prop where
  | intro {t : Table} {c : Column} (ht : FirstNamed Table.name r.table tables t)
    (hc : FirstNamed Column.name r.column t.columns c) (htype : c.type ∈ [ColumnType.uuid, .string, .boolean, .integer]) :
    Resolves tables r ⟨r.name, c.type, ⟨r.table, r.column⟩, r.oneToMany⟩

/-- A reference that leads nowhere, with the kind and the cause of the problem. -/
inductive Fails (tables : List Table) (r : Reference) : Kind → Problem.Cause → Prop where
  | unknownTable (h : ∀ t ∈ tables, t.name ≠ r.table) : Fails tables r .unknownTable (.unknownTable r.pointer r.table)
  | targetsType {t : Table} {c : Column} (ht : FirstNamed Table.name r.table tables t)
    (hc : FirstNamed Column.name r.column t.columns c) (htype : c.type ∈ [ColumnType.number, .date, .datetime]) :
    Fails tables r .invalidTargetType (.targetsType r.pointer r.table r.column c.type)
  /-- A column of the name would count before a reference of it. -/
  | targetsReference {t : Table} (ht : FirstNamed Table.name r.table tables t)
    (hcolumn : ∀ c ∈ t.columns, c.name ≠ r.column) (hreference : ∃ other ∈ t.references, other.name = r.column) :
    Fails tables r .invalidTargetType (.targetsReference r.pointer r.table r.column)
  | unknownColumn {t : Table} (ht : FirstNamed Table.name r.table tables t)
    (hcolumn : ∀ c ∈ t.columns, c.name ≠ r.column) (hreference : ∀ other ∈ t.references, other.name ≠ r.column) :
    Fails tables r .unknownColumn (.unknownColumn r.pointer r.table r.column)

end Reference

/-- The problems of tables that come after some others: one for each that has the name of a table before it. -/
inductive Repeats : List Table → List Table → List Problem → Prop where
  | nil {before : List Table} : Repeats before [] []
  | first {before rest : List Table} {t : Table} {problems : List Problem} (h : ∀ u ∈ before, u.name ≠ t.name)
    (hrest : Repeats (before ++ [t]) rest problems) : Repeats before (t :: rest) problems
  | again {before rest : List Table} {t : Table} {problems : List Problem} (h : ∃ u ∈ before, u.name = t.name)
    (hrest : Repeats (before ++ [t]) rest problems) :
    Repeats before (t :: rest) (⟨[.name t.name], .duplicateTable t.name⟩ :: problems)

/-- The problems of references: one for each that leads nowhere, at the steps to the reference. -/
inductive Failures (tables : List Table) : List Reference → List Problem → Prop where
  | nil : Failures tables [] []
  | resolved {r : Reference} {rest : List Reference} {problems : List Problem} {k : ForeignKey}
    (h : r.Resolves tables k) (hrest : Failures tables rest problems) : Failures tables (r :: rest) problems
  | failed {r : Reference} {rest : List Reference} {problems : List Problem} {cause : Problem.Cause}
    (h : r.Fails tables cause.kind cause) (hrest : Failures tables rest problems) :
    Failures tables (r :: rest) (⟨r.schemaPath.map .name ++ [.name r.name, .name "$ref"], cause⟩ :: problems)

/-- A table as it is, with a foreign key for each of its references, in order. -/
structure ResolvedFrom (tables : List Table) (t : Table) (resolved : ResolvedTable) : Prop where
  toTable_eq : resolved.toTable = t
  foreignKeys : List.Forall₂ (Reference.Resolves tables) t.references resolved.foreignKeys

/-- The outcome of resolving tables. -/
inductive Resolution (tables : List Table) : Except (List Problem) (List ResolvedTable) → Prop where
  | succeeded {resolved : List ResolvedTable} (hrepeats : Repeats [] tables [])
    (hfailures : Failures tables (tables.flatMap (·.references)) [])
    (hresolved : List.Forall₂ (ResolvedFrom tables) tables resolved) : Resolution tables (.ok resolved)
  | failed {repeats failures : List Problem} (hrepeats : Repeats [] tables repeats)
    (hfailures : Failures tables (tables.flatMap (·.references)) failures) (hne : repeats ++ failures ≠ []) :
    Resolution tables (.error (repeats ++ failures))

/-! ### Single references -/

section Single

variable {tables : List Table} {r : Reference}

/-- What is found by a name is the first thing of it. -/
theorem find?_eq_some_iff_firstNamed {α : Type} {name : α → String} {s : String} {things : List α} {x : α} :
    (things.find? fun y => name y = s) = some x ↔ FirstNamed name s things x := by
  rw [List.find?_eq_some_iff_append]
  simp only [decide_eq_true_eq, Bool.not_eq_true', decide_eq_false_iff_not, FirstNamed]
  constructor
  · rintro ⟨hname, before, after, hsplit, hbefore⟩
    exact ⟨before, after, hsplit, hname, hbefore⟩
  · rintro ⟨before, after, hsplit, hname, hbefore⟩
    exact ⟨hname, before, after, hsplit, hbefore⟩

theorem resolves_iff {k : ForeignKey} : r.Resolves tables k ↔ resolveReference tables r = .ok k := by
  rw [resolveReference_eq_ok_iff]
  simp only [Table.findColumn?, find?_eq_some_iff_firstNamed, ← mem_keyTypes_iff]
  constructor
  · rintro ⟨ht, hc, htype⟩
    obtain ⟨-, -, -, htable, -⟩ := id ht
    obtain ⟨-, -, -, hcolumn, -⟩ := id hc
    exact ⟨_, _, ht, hc, htype, by rw [htable, hcolumn]⟩
  · rintro ⟨t, c, ht, hc, htype, rfl⟩
    obtain ⟨-, -, -, htable, -⟩ := id ht
    obtain ⟨-, -, -, hcolumn, -⟩ := id hc
    rw [htable, hcolumn]
    exact .intro ht hc htype

theorem isKeyType_eq_false_iff {type : ColumnType} :
    type.isKeyType = false ↔ type ∈ [ColumnType.number, .date, .datetime] := by
  cases type <;> simp [ColumnType.isKeyType]

theorem find?_eq_none_iff_forall_ne {α : Type} {name : α → String} {s : String} {things : List α} :
    (things.find? fun y => name y = s) = none ↔ ∀ y ∈ things, name y ≠ s := by
  simp [List.find?_eq_none]

theorem isSome_findReference?_iff {t : Table} {name : String} :
    (t.findReference? name).isSome ↔ ∃ other ∈ t.references, other.name = name := by
  simp [Table.findReference?]

theorem resolveReference_eq : resolveReference tables r =
    match tables.find? fun t => t.name = r.table with
    | none => .error ⟨r.loc, .unknownTable r.pointer r.table⟩
    | some t => match t.findColumn? r.column with
      | none => .error ⟨r.loc, if (t.findReference? r.column).isSome then
          .targetsReference r.pointer r.table r.column else .unknownColumn r.pointer r.table r.column⟩
      | some c => if c.type.isKeyType then .ok ⟨r.name, c.type, ⟨t.name, c.name⟩, r.oneToMany⟩
        else .error ⟨r.loc, .targetsType r.pointer r.table r.column c.type⟩ := rfl

/-- A reference fails for the cause for which it is not resolved. -/
theorem fails_iff {cause : Problem.Cause} :
    r.Fails tables cause.kind cause ↔ resolveReference tables r = .error ⟨r.loc, cause⟩ := by
  rw [resolveReference_eq]
  constructor
  · intro h
    generalize cause.kind = kind at h
    cases h with
    | unknownTable h => rw [find?_eq_none_iff_forall_ne.mpr h]
    | @targetsType t c ht hc htype =>
      have hfound : t.findColumn? r.column = some c := find?_eq_some_iff_firstNamed.mpr hc
      simp [find?_eq_some_iff_firstNamed.mpr ht, hfound, isKeyType_eq_false_iff.mpr htype]
    | @targetsReference t ht hcolumn hreference =>
      have hnone : t.findColumn? r.column = none := find?_eq_none_iff_forall_ne.mpr hcolumn
      simp [find?_eq_some_iff_firstNamed.mpr ht, hnone, isSome_findReference?_iff.mpr hreference]
    | @unknownColumn t ht hcolumn hreference =>
      have hnone : t.findColumn? r.column = none := find?_eq_none_iff_forall_ne.mpr hcolumn
      simpa [find?_eq_some_iff_firstNamed.mpr ht, hnone, isSome_findReference?_iff] using hreference
  · intro h
    split at h
    · next htable =>
      cases h
      exact .unknownTable (find?_eq_none_iff_forall_ne.mp htable)
    · next t htable =>
      have ht := find?_eq_some_iff_firstNamed.mp htable
      split at h
      · next hcolumn =>
        have hnone := find?_eq_none_iff_forall_ne.mp hcolumn
        split at h
        · next hreference =>
          cases h
          exact .targetsReference ht hnone (isSome_findReference?_iff.mp hreference)
        · next hreference =>
          cases h
          rw [isSome_findReference?_iff] at hreference
          exact .unknownColumn ht hnone (by simpa using hreference)
      · next c hcolumn =>
        split at h
        · cases h
        · next htype =>
          cases h
          rw [Bool.not_eq_true, isKeyType_eq_false_iff] at htype
          exact .targetsType ht (find?_eq_some_iff_firstNamed.mp hcolumn) htype

end Single

/-! ### All problems -/

section All

variable {tables : List Table}

/-- Names that have been seen are those of the tables before. -/
theorem repeats_iff {before rest : List Table} {seen : List String} {problems : List Problem}
    (hseen : ∀ name, name ∈ seen ↔ ∃ u ∈ before, u.name = name) :
    Repeats before rest problems ↔ problems = duplicateProblems seen rest := by
  induction rest generalizing before seen problems with
  | nil =>
    constructor
    · rintro ⟨⟩
      rfl
    · rintro rfl
      exact .nil
  | cons t rest ih =>
    have hbefore : ∀ name, name ∈ t.name :: seen ↔ ∃ u ∈ before ++ [t], u.name = name := by
      intro name
      rw [List.mem_cons, hseen]
      simp [or_and_right, exists_or, or_comm, eq_comm]
    rw [duplicateProblems]
    split
    · next hmem =>
      have hrest : ∀ name, name ∈ seen ↔ ∃ u ∈ before ++ [t], u.name = name := by
        intro name
        rw [← hbefore, List.mem_cons, or_iff_right_of_imp]
        rintro rfl
        exact hmem
      have hagain := (hseen _).mp hmem
      constructor
      · rintro (_ | ⟨hfresh, -⟩ | ⟨-, h⟩)
        · obtain ⟨u, hu, hname⟩ := hagain
          exact absurd hname (hfresh u hu)
        · rw [(ih hrest).mp h]
      · rintro rfl
        exact .again hagain ((ih hrest).mpr rfl)
    · next hmem =>
      rw [hseen] at hmem
      constructor
      · rintro (_ | ⟨-, h⟩ | ⟨hagain, -⟩)
        · exact (ih hbefore).mp h
        · exact absurd hagain hmem
      · rintro rfl
        exact .first (fun u hu hname => hmem ⟨u, hu, hname⟩) ((ih hbefore).mpr rfl)

/-- The problem with a reference, if there is one. -/
def problem? (tables : List Table) (r : Reference) : Option Problem :=
  match resolveReference tables r with
  | .error p => some p
  | .ok _ => none

theorem referenceProblems_eq : referenceProblems tables = (tables.flatMap (·.references)).filterMap (problem? tables) := by
  rw [List.filterMap_flatMap]
  rfl

theorem problem?_eq_none_iff {r : Reference} : problem? tables r = none ↔ ∃ k, r.Resolves tables k := by
  simp only [resolves_iff, problem?]
  cases resolveReference tables r <;> simp

theorem problem?_eq_some_iff {r : Reference} {p : Problem} :
    problem? tables r = some p ↔ p.loc = r.loc ∧ r.Fails tables p.cause.kind p.cause := by
  rw [fails_iff, problem?]
  cases hresolve : resolveReference tables r with
  | ok k => simp
  | error q =>
    have hloc := (of_resolveReference_eq_error hresolve).1
    constructor
    · rintro ⟨⟩
      exact ⟨hloc, by rw [← hloc]⟩
    · rintro ⟨hp, h⟩
      rw [Except.error.inj h, ← hp]

theorem failures_iff {references : List Reference} {problems : List Problem} :
    Failures tables references problems ↔ problems = references.filterMap (problem? tables) := by
  induction references generalizing problems with
  | nil =>
    constructor
    · rintro ⟨⟩
      rfl
    · rintro rfl
      exact .nil
  | cons r rest ih =>
    constructor
    · rintro (_ | ⟨h, hrest⟩ | ⟨h, hrest⟩)
      · rw [List.filterMap_cons_none (problem?_eq_none_iff.mpr ⟨_, h⟩), ih.mp hrest]
      · rw [List.filterMap_cons_some (problem?_eq_some_iff (p := ⟨r.loc, _⟩).mpr ⟨rfl, h⟩), ih.mp hrest]
        rfl
    · rintro rfl
      cases hproblem : problem? tables r with
      | none =>
        rw [List.filterMap_cons_none hproblem]
        obtain ⟨k, hk⟩ := problem?_eq_none_iff.mp hproblem
        exact .resolved hk (ih.mpr rfl)
      | some p =>
        obtain ⟨loc, cause⟩ := p
        rw [List.filterMap_cons_some hproblem]
        obtain ⟨rfl, hfails⟩ := problem?_eq_some_iff.mp hproblem
        exact .failed hfails (ih.mpr rfl)

theorem rightUnique_resolves : Relator.RightUnique (Reference.Resolves tables) := by
  intro r k k' hk hk'
  exact Except.ok.inj ((resolves_iff.mp hk).symm.trans (resolves_iff.mp hk'))

/-- What a table is resolved to is determined by the table. -/
theorem rightUnique_resolvedFrom : Relator.RightUnique (ResolvedFrom tables) := by
  rintro t ⟨table, keys⟩ ⟨table', keys'⟩ h h'
  obtain rfl : table = t := h.toTable_eq
  obtain rfl : table' = table := h'.toTable_eq
  exact congrArg _ (rightUnique_resolves.forall₂ h.foreignKeys h'.foreignKeys)

/-- Tables whose references all lead to a column are resolved one by one. -/
theorem forall₂_resolvedFrom (h : ∀ t ∈ tables, ∀ r ∈ t.references, ∃ k, resolveReference tables r = .ok k) :
    List.Forall₂ (ResolvedFrom tables) tables (tables.map (resolveTable tables)) := by
  rw [List.forall₂_map_right_iff, List.forall₂_same]
  intro t ht
  exact ⟨rfl, (forall₂_foreignKeys (h t ht)).imp fun r k hk => resolves_iff.mpr hk⟩

end All

/-- Resolving has one outcome, and it is this: the problems in order if there are any, and else the tables as they
are, with a foreign key for each reference. -/
theorem resolve_exact {tables : List Table} {outcome : Except (List Problem) (List ResolvedTable)} :
    resolve tables = outcome ↔ Resolution tables outcome := by
  have hrepeats : ∀ problems, Repeats [] tables problems ↔ problems = duplicateProblems [] tables :=
    fun problems => repeats_iff (by simp)
  have hfailures : ∀ problems, Failures tables (tables.flatMap (·.references)) problems ↔
      problems = referenceProblems tables := fun problems => by rw [failures_iff, referenceProblems_eq]
  constructor
  · rintro rfl
    cases hresolve : resolve tables with
    | ok resolved =>
      obtain ⟨hnames, hreferences, rfl⟩ := resolve_eq_ok_iff.mp hresolve
      have hduplicate : duplicateProblems [] tables = [] := duplicateProblems_eq_nil_iff.mpr ⟨hnames, by simp⟩
      exact .succeeded ((hrepeats _).mpr hduplicate.symm)
        ((hfailures _).mpr (referenceProblems_eq_nil_iff.mpr hreferences).symm) (forall₂_resolvedFrom hreferences)
    | error problems =>
      obtain ⟨rfl, hne⟩ := resolve_eq_error_iff.mp hresolve
      exact .failed ((hrepeats _).mpr rfl) ((hfailures _).mpr rfl) hne
  · rintro (⟨hduplicate, hreference, hresolved⟩ | ⟨hduplicate, hreference, hne⟩)
    · have hreferences := referenceProblems_eq_nil_iff.mp ((hfailures _).mp hreference).symm
      refine resolve_eq_ok_iff.mpr ⟨?_, hreferences, ?_⟩
      · exact (duplicateProblems_eq_nil_iff.mp ((hrepeats _).mp hduplicate).symm).1
      · exact rightUnique_resolvedFrom.forall₂ hresolved (forall₂_resolvedFrom hreferences)
    · obtain rfl := (hrepeats _).mp hduplicate
      obtain rfl := (hfailures _).mp hreference
      exact resolve_eq_error_iff.mpr ⟨rfl, hne⟩

end ShapeTables.Flat
