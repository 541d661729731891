import ShapeTables.Proofs.Tokens

/-! Recovery of texts. The names, defaults, allowed values and descriptions of tables are lexemes of the statements
for them; each of them is recovered from its token in the text of the statement unless it has a percent sign in
quotes or, without quotes, a line feed at its end. -/
namespace ShapeTables.Sql

open Flat (ForeignKey ResolvedTable)
open Shape (Constant)

/-- The names and texts of a table that are to reach a database. Only MySQL takes an empty description. -/
inductive Carries (d : Dialect) (t : ResolvedTable) : Lexeme → Prop where
  | table : Carries d t (.name t.name)
  | column {c : Flat.Column} (hc : c ∈ t.columns) : Carries d t (.name c.name)
  | default {c : Flat.Column} (hc : c ∈ t.columns) {s : String} (hs : c.default = some (.text s)) :
    Carries d t (.literal s)
  | allowed {c : Flat.Column} (hc : c ∈ t.columns) {values : List Constant} (hvalues : c.enum = some values)
    {s : String} (hs : .text s ∈ values) : Carries d t (.literal s)
  | description {c : Flat.Column} (hc : c ∈ t.columns) {s : String} (hs : c.description = some s)
    (hd : d = .mysql ∨ s ≠ "") : Carries d t (.literal s)
  | foreignKey {k : ForeignKey} (hk : k ∈ t.foreignKeys) : Carries d t (.name k.name)

/-- The name of the table that a statement is about. -/
def Statement.table : Statement → String
  | .createTable spec => spec.name
  | .commentOn table _ _ | .addColumn table _ | .addForeignKey table _ _ | .addUnique table _ => table

variable {d : Dialect} {style : Style} {t : ResolvedTable} {tables : List ResolvedTable}
  {statements : List Statement}

/-! ### Statements for tables -/

/-- Creating tables begins with the statements for a definition of the name of the first one, which is its own unless it
has no columns. -/
theorem createAll_cons_cases {defined : List TableSpec} {rest : List ResolvedTable}
    (h : createAll d defined (t :: rest) = .ok statements) : ∃ spec, spec.name = t.name ∧
      (t.columns ≠ [] → spec = tableSpec t) ∧ ∃ defined' others, createAll d defined' rest = .ok others ∧
        statements = createStatements d spec ++ others := by
  rw [createAll] at h
  obtain ⟨-, -, h⟩ := bind_eq_ok_iff.mp h
  split at h
  · next spec hfind =>
    have hname : spec.name = t.name := by simpa using List.find?_some hfind
    split at h
    · cases h
    · next hitems =>
      obtain ⟨others, hothers, hall⟩ := bind_eq_ok_iff.mp h
      cases hall
      have hcolumns : t.columns = [] := by
        rw [hasItems, Bool.or_eq_true, not_or] at hitems
        simpa using hitems.1
      exact ⟨spec, hname, fun hne => absurd hcolumns hne, _, others, hothers, rfl⟩
  · obtain ⟨spec, hdefine, h⟩ := bind_eq_ok_iff.mp h
    obtain ⟨-, rfl⟩ := define_eq_ok_iff.mp hdefine
    obtain ⟨-, -, h⟩ := bind_eq_ok_iff.mp h
    obtain ⟨others, hothers, hall⟩ := bind_eq_ok_iff.mp h
    cases hall
    exact ⟨_, rfl, fun _ => rfl, _, others, hothers, rfl⟩

/-- Every table has the statements for a definition of its name, which is its own unless it has no columns. -/
theorem exists_createStatements {defined : List TableSpec} (h : createAll d defined tables = .ok statements) :
    ∀ t ∈ tables, ∃ spec, spec.name = t.name ∧ (t.columns ≠ [] → spec = tableSpec t) ∧
      createStatements d spec ⊆ statements := by
  induction tables generalizing defined statements with
  | nil => simp
  | cons t rest ih =>
    obtain ⟨spec, hname, hown, _, others, hothers, rfl⟩ := createAll_cons_cases h
    refine List.forall_mem_cons.mpr ⟨⟨spec, hname, hown, List.subset_append_left _ _⟩, fun t' ht' => ?_⟩
    obtain ⟨spec', hname', hown', hsub⟩ := ih hothers t' ht'
    exact ⟨spec', hname', hown', List.subset_append_of_subset_right _ hsub⟩

theorem addColumn_mem_of_foreignKeysAll {referables : List Referable} {keys : List (ResolvedTable × ForeignKey)}
    (h : foreignKeysAll referables keys = .ok statements) :
    ∀ p ∈ keys, .addColumn p.1.name (foreignKeySpec p.1 p.2) ∈ statements := by
  induction keys generalizing statements with
  | nil => simp
  | cons p rest ih =>
    obtain ⟨t, k⟩ := p
    rw [foreignKeysAll] at h
    obtain ⟨own, hown, h⟩ := bind_eq_ok_iff.mp h
    obtain ⟨others, hothers, hall⟩ := bind_eq_ok_iff.mp h
    cases hall
    refine List.forall_mem_cons.mpr ⟨List.mem_append_left _ ?_, fun p hp => List.mem_append_right _ (ih hothers p hp)⟩
    rw [eq_keyStatements hown]
    exact List.mem_cons_self

/-! ### Lexemes of definitions -/

theorem mem_separated {between x : Lexeme} {items : List (List Lexeme)} {item : List Lexeme} (hitem : item ∈ items)
    (hx : x ∈ item) : x ∈ separated between items := by
  induction items with
  | nil => cases hitem
  | cons first items ih =>
    cases items with
    | nil => rwa [List.mem_singleton.mp hitem] at hx
    | cons next items =>
      rw [separated, List.mem_append, List.mem_cons]
      rcases List.mem_cons.mp hitem with rfl | hitem
      · exact .inl hx
      · exact .inr (.inr (ih hitem))

/-- What stands in an item of a definition stands in the statement. -/
theorem mem_createTable {spec : TableSpec} {item : List Lexeme} (hitem : item ∈ spec.items style) {x : Lexeme}
    (hx : x ∈ item) : x ∈ (Statement.createTable spec).lexemes style := by
  have hmem : x ∈ separated (.word ", \n\t") (spec.items style) := mem_separated hitem hx
  rw [Statement.lexemes]
  split
  · next hnil => simp [hnil] at hitem
  · simp [hmem]

theorem column_mem_items {c : Flat.Column} (hc : c ∈ t.columns) :
    (columnSpec t c).lexemes style ∈ (tableSpec t).items style :=
  List.mem_append_left _ (List.mem_append_left _ (List.mem_map_of_mem (List.mem_map_of_mem hc)))

/-- A table with columns is created with its own definition. -/
theorem createStatements_subset (hspec : ∃ spec : TableSpec, spec.name = t.name ∧ (t.columns ≠ [] → spec = tableSpec t) ∧
    createStatements d spec ⊆ statements) {c : Flat.Column} (hc : c ∈ t.columns) :
    createStatements d (tableSpec t) ⊆ statements := by
  obtain ⟨spec, -, hown, hsub⟩ := hspec
  rwa [hown (List.ne_nil_of_mem hc)] at hsub

theorem default_mem_column {c : Flat.Column} {s : String} (hs : c.default = some (.text s)) :
    .literal s ∈ (columnSpec t c).lexemes style := by
  have hlexeme : .literal s ∈ defaultLexemes style.dialect (.text s) := by
    simp [defaultLexemes, constantLexeme]
  have hdefault : (columnSpec t c).default = some (.text s) := hs
  rw [ColumnSpec.lexemes, hdefault]
  split <;> simp [hlexeme]

theorem allowed_mem_item {c : Flat.Column} (hc : c ∈ t.columns) {values : List Constant}
    (hvalues : c.enum = some values) {s : String} (hs : .text s ∈ values) :
    ∃ item ∈ (tableSpec t).items style, .literal s ∈ item := by
  have hcheck : checkOf? c = some ⟨c.name, values⟩ := by
    unfold checkOf?
    rw [hvalues]
    cases values with
    | nil => cases hs
    | cons first rest => rfl
  have hlexeme : .literal s ∈ separated (.word ", ") (values.map fun value => [constantLexeme value]) :=
    mem_separated (List.mem_map_of_mem hs) List.mem_cons_self
  refine ⟨(Check.mk c.name values).lexemes, List.mem_append_right _ (List.mem_map_of_mem ?_), ?_⟩
  · exact List.mem_filterMap.mpr ⟨c, hc, hcheck⟩
  · exact List.mem_append_left _ (List.mem_append_right _ hlexeme)

/-- A description is in the definition of the column or, in PostgreSQL, in a statement of its own. -/
theorem description_mem {c : Flat.Column} (hc : c ∈ t.columns) {s : String} (hs : c.description = some s)
    (hd : style.dialect = .mysql ∨ s ≠ "") :
    ∃ x ∈ createStatements style.dialect (tableSpec t), x.table = t.name ∧ .literal s ∈ x.lexemes style := by
  have hcomment : (columnSpec t c).comment = some s := hs
  cases hdialect : style.dialect with
  | mysql =>
    have hlexeme : .literal s ∈ (columnSpec t c).lexemes style := by
      simp [ColumnSpec.lexemes, hdialect, hcomment]
    exact ⟨_, List.mem_cons_self, rfl, mem_createTable (column_mem_items hc) hlexeme⟩
  | postgresql =>
    have hne : s ≠ "" := hd.resolve_left (by simp [hdialect])
    refine ⟨.commentOn t.name c.name s, List.mem_cons_of_mem _ ?_, rfl, by simp [Statement.lexemes]⟩
    refine List.mem_filterMap.mpr ⟨_, List.mem_map_of_mem hc, ?_⟩
    rw [hcomment]
    split
    · next h => cases h
    · next h => exact absurd (Option.some.inj h) hne
    · next h => rw [Option.some.inj h]; rfl

/-- What a table carries is in one of the statements about it. -/
theorem Carries.mem_lexemes (h : script style.dialect tables = .ok statements) (ht : t ∈ tables) {x : Lexeme}
    (hx : Carries style.dialect t x) : ∃ s ∈ statements, s.table = t.name ∧ x ∈ s.lexemes style := by
  obtain ⟨created, hcreated, h⟩ := bind_eq_ok_iff.mp h
  obtain ⟨referables, -, h⟩ := bind_eq_ok_iff.mp h
  obtain ⟨keys, hkeys, hall⟩ := bind_eq_ok_iff.mp h
  cases hall
  have hspec := exists_createStatements hcreated t ht
  have hitems : ∀ c ∈ t.columns, ∀ x, (∃ item ∈ (tableSpec t).items style, x ∈ item) →
      ∃ s ∈ created ++ keys, s.table = t.name ∧ x ∈ s.lexemes style := by
    rintro c hc x ⟨item, hitem, hx⟩
    exact ⟨_, List.mem_append_left _ (createStatements_subset hspec hc List.mem_cons_self), rfl, mem_createTable hitem hx⟩
  cases hx with
  | table =>
    obtain ⟨spec, hname, -, hsub⟩ := hspec
    refine ⟨_, List.mem_append_left _ (hsub List.mem_cons_self), hname, ?_⟩
    simp [Statement.lexemes, hname]
  | column hc => exact hitems _ hc _ ⟨_, column_mem_items hc, by simp [ColumnSpec.lexemes, columnSpec]⟩
  | default hc hs => exact hitems _ hc _ ⟨_, column_mem_items hc, default_mem_column hs⟩
  | allowed hc hvalues hs => exact hitems _ hc _ (allowed_mem_item hc hvalues hs)
  | description hc hs hd =>
    obtain ⟨s, hmem, htable, hlexeme⟩ := description_mem hc hs hd
    exact ⟨s, List.mem_append_left _ (createStatements_subset hspec hc hmem), htable, hlexeme⟩
  | @foreignKey k hk =>
    have hkey : (t, k) ∈ tables.flatMap fun t => t.foreignKeys.map (t, ·) :=
      List.mem_flatMap.mpr ⟨t, ht, List.mem_map_of_mem hk⟩
    refine ⟨_, List.mem_append_right _ (addColumn_mem_of_foreignKeysAll hkeys _ hkey), rfl, ?_⟩
    simp [Statement.lexemes, ColumnSpec.lexemes, foreignKeySpec]

end ShapeTables.Sql

namespace ShapeTables

open Sql

/-- The texts of tables are recovered from statements: every text that a table carries is a lexeme of a statement
about it, the tokens of a statement are those that its lexemes are taken for one after another, and a lexeme is
taken for what it is meant for exactly when it survives. -/
theorem recovered_iff_survives {style : Style} {tables : List Flat.ResolvedTable} {texts : List String}
    (h : generate style tables = .ok texts) :
    ∃ statements, script style.dialect tables = .ok statements ∧ texts = statements.map (·.render style) ∧
      (∀ t ∈ tables, ∀ x, Carries style.dialect t x → ∃ s ∈ statements, s.table = t.name ∧ x ∈ s.lexemes style) ∧
      ∀ s ∈ statements,
        style.dialect.tokens (s.render style).toList =
          some ((s.lexemes style).flatMap (Lexeme.found style.dialect) ++ [.mark ';']) ∧
        ∀ x ∈ s.lexemes style, x.found style.dialect = x.tokens style.dialect ↔ x.Survives style.dialect := by
  obtain ⟨statements, hscript, htexts⟩ := generate_eq_ok_iff.mp h
  refine ⟨statements, hscript, htexts, fun t ht x hx => hx.mem_lexemes hscript ht, fun s _ => ?_⟩
  exact ⟨tokens_render style s, fun x _ => found_eq_tokens_iff _ x⟩

/-- A rate that is a percentage unless it is said otherwise. -/
def percentage : Value := objectOf
  [("users", objectOf [("id", typed "integer"),
    ("rate", .object [("type", .text "string"), ("default", .text "100%")])])]

/-- The table of the rate. -/
def rates : Flat.ResolvedTable where
  name := "users"
  required := none
  primaryKey := some "id"
  columns := [⟨"id", .integer, none, none, none⟩, ⟨"rate", .string, some (.text "100%"), none, none⟩]
  references := []
  foreignKeys := []

/-- The percent sign of the default is doubled, and what a reader finds in the only statement has two of them. -/
theorem percent_not_recovered : compile percentage = .ok [rates] ∧ Carries .postgresql rates (.literal "100%") ∧
    ∃ text tokens, generate ⟨.postgresql, 255⟩ [rates] = .ok [text] ∧
      Dialect.postgresql.tokens text.toList = some tokens ∧ .literal "100%" ∉ tokens ∧ .literal "100%%" ∈ tokens := by
  have hrate : ⟨"rate", .string, some (.text "100%"), none, none⟩ ∈ rates.columns :=
    List.mem_cons_of_mem _ List.mem_cons_self
  have hgenerate : generate ⟨.postgresql, 255⟩ [rates] =
      .ok [(Statement.createTable (tableSpec rates)).render ⟨.postgresql, 255⟩] := rfl
  refine ⟨rfl, .default hrate rfl, _, _, hgenerate, tokens_render ⟨.postgresql, 255⟩ _, ?_, ?_⟩
  · decide +kernel
  · decide +kernel

theorem recovered_of_rates : ∃ texts, generate ⟨.mysql, 255⟩ [rates] = .ok texts ∧
    ∃ statements, script .mysql [rates] = .ok statements ∧ texts = statements.map (·.render ⟨.mysql, 255⟩) ∧
      (∀ t ∈ [rates], ∀ x, Carries .mysql t x → ∃ s ∈ statements, s.table = t.name ∧ x ∈ s.lexemes ⟨.mysql, 255⟩) ∧
      ∀ s ∈ statements,
        Dialect.mysql.tokens (s.render ⟨.mysql, 255⟩).toList =
          some ((s.lexemes ⟨.mysql, 255⟩).flatMap (Lexeme.found .mysql) ++ [.mark ';']) ∧
        ∀ x ∈ s.lexemes ⟨.mysql, 255⟩, x.found .mysql = x.tokens .mysql ↔ x.Survives .mysql := by
  have hgenerate : ∃ texts, generate ⟨.mysql, 255⟩ [rates] = .ok texts := ⟨_, rfl⟩
  obtain ⟨texts, hgenerate⟩ := hgenerate
  exact ⟨texts, hgenerate, recovered_iff_survives hgenerate⟩

end ShapeTables
