import ShapeTables.Proofs.Catalog

/-! Scripts in the two dialects. Whether a script can be written does not depend on the dialect, and apart from the
comments that PostgreSQL has in statements of their own, the scripts in both dialects are made of the same statements
in the same order. The texts of a statement differ in how types, names and literals are written, and in the place of
defaults and comments; what is left when these are taken away, the outline of the statement, is the same. -/
namespace ShapeTables.Sql

open Flat (ColumnType ForeignKey ResolvedTable)
open Shape (Constant)

/-! ### Parts of statements -/

/-- A part of a statement: a lexeme that is the same in both dialects, or something that each of them writes in its
own way. -/
inductive Part where
  | lexeme (x : Lexeme)
  | typeName (type : ColumnType)
  | default (value : Constant)
  | comment (text : String)
deriving DecidableEq

def Part.lexemes (style : Style) : Part → List Lexeme
  | .lexeme x => [x]
  | .typeName type => [.word (style.typeText type)]
  | .default value => .word " DEFAULT " :: defaultLexemes style.dialect value
  | .comment text => [.word " COMMENT ", .literal text]

/-- Whether a part has the same place in both dialects. -/
def Part.isFixed : Part → Bool
  | .lexeme _ | .typeName _ => true
  | .default _ | .comment _ => false

def Part.default? : Part → Option Constant
  | .default value => some value
  | _ => none

/-- The parts that have the same place in both dialects. -/
def outline (parts : List Part) : List Part := parts.filter Part.isFixed

/-- The defaults among parts. -/
def defaults (parts : List Part) : List Constant := parts.filterMap Part.default?

/-- The text of a statement that is made of parts. -/
def printed (style : Style) (parts : List Part) : String :=
  String.ofList (Lexeme.encodeAll style.dialect (parts.flatMap (Part.lexemes style) ++ [.word ";"]))

/-- Lexemes that are parts. -/
def fixedParts (xs : List Lexeme) : List Part := xs.map .lexeme

def ColumnSpec.parts (d : Dialect) (c : ColumnSpec) : List Part :=
  let notNull := fixedParts (if c.notNull then [.word " NOT NULL"] else [])
  let default := c.default.toList.map Part.default
  [.lexeme (.name c.name), .lexeme (.word " "), .typeName c.type] ++
    match d with
    | .postgresql => default ++ notNull
    | .mysql => notNull ++ c.comment.toList.map Part.comment ++ default

/-- Runs of parts with `between` set between them. -/
def joined (between : Lexeme) : List (List Part) → List Part
  | [] => []
  | [item] => item
  | item :: next :: items => item ++ .lexeme between :: joined between (next :: items)

/-- What stands between the parentheses of a table with the given items. -/
def enclosed : List (List Part) → List Part
  | [] => []
  | item :: items => .lexeme (.word "\n\t") :: joined (.word ", \n\t") (item :: items)

def TableSpec.parts (d : Dialect) (t : TableSpec) : List (List Part) :=
  t.columns.map (·.parts d) ++
    t.primaryKey.toList.map (fun key => fixedParts [.word "PRIMARY KEY (", .name key, .word ")"]) ++
    t.checks.map fun c => fixedParts c.lexemes

/-- The parts of a statement up to its semicolon. -/
def Statement.parts (style : Style) : Statement → List Part
  | .createTable t =>
    fixedParts [.word "CREATE TABLE ", .name t.name, .word " ("] ++ enclosed (t.parts style.dialect) ++
      fixedParts [.word "\n)"]
  | .addColumn table column =>
    fixedParts [.word "ALTER TABLE ", .name table, .word " ADD COLUMN "] ++ column.parts style.dialect
  | s => fixedParts (s.lexemes style)

variable {style : Style} {d : Dialect}

@[simp] theorem flatMap_fixedParts (xs : List Lexeme) : (fixedParts xs).flatMap (Part.lexemes style) = xs := by
  simp [fixedParts, List.flatMap_map, Part.lexemes]

@[simp] theorem outline_append (ps qs : List Part) : outline (ps ++ qs) = outline ps ++ outline qs :=
  List.filter_append ..

@[simp] theorem outline_fixedParts (xs : List Lexeme) : outline (fixedParts xs) = fixedParts xs := by
  simp [outline, fixedParts, Part.isFixed]

@[simp] theorem defaults_append (ps qs : List Part) : defaults (ps ++ qs) = defaults ps ++ defaults qs :=
  List.filterMap_append

@[simp] theorem defaults_fixedParts (xs : List Lexeme) : defaults (fixedParts xs) = [] := by
  simp [defaults, fixedParts, Part.default?]

theorem flatMap_joined (style : Style) (between : Lexeme) (items : List (List Part)) :
    (joined between items).flatMap (Part.lexemes style) =
      separated between (items.map (·.flatMap (Part.lexemes style))) := by
  induction items with
  | nil => rfl
  | cons item items ih =>
    cases items with
    | nil => rfl
    | cons next items =>
      simp only [List.map_cons] at ih
      simp [joined, separated, Part.lexemes, ih]

theorem outline_joined (between : Lexeme) (items : List (List Part)) :
    outline (joined between items) = joined between (items.map outline) := by
  induction items with
  | nil => rfl
  | cons item items ih =>
    cases items with
    | nil => rfl
    | cons next items =>
      have hbetween : outline (.lexeme between :: joined between (next :: items)) =
          .lexeme between :: outline (joined between (next :: items)) := rfl
      rw [joined, outline_append, hbetween, ih]
      rfl

theorem defaults_joined (between : Lexeme) (items : List (List Part)) :
    defaults (joined between items) = items.flatMap defaults := by
  induction items with
  | nil => rfl
  | cons item items ih =>
    cases items with
    | nil => simp [joined]
    | cons next items =>
      have hbetween : defaults (.lexeme between :: joined between (next :: items)) =
          defaults (joined between (next :: items)) := rfl
      rw [joined, defaults_append, hbetween, ih]
      rfl

theorem outline_enclosed (items : List (List Part)) : outline (enclosed items) = enclosed (items.map outline) := by
  cases items with
  | nil => rfl
  | cons item items => exact congrArg (.lexeme (.word "\n\t") :: ·) (outline_joined _ _)

theorem defaults_enclosed (items : List (List Part)) : defaults (enclosed items) = items.flatMap defaults := by
  cases items with
  | nil => rfl
  | cons item items => exact defaults_joined _ _

/-! ### Statements in the two dialects -/

theorem ColumnSpec.flatMap_parts (c : ColumnSpec) :
    (c.parts style.dialect).flatMap (Part.lexemes style) = c.lexemes style := by
  obtain ⟨d, stringLength⟩ := style
  obtain ⟨name, type, notNull, default, comment⟩ := c
  simp only [ColumnSpec.parts, ColumnSpec.lexemes]
  cases d <;> cases default <;> cases comment <;> simp [Part.lexemes]

/-- A column has the same name, type and mark in both dialects. -/
theorem ColumnSpec.outline_parts (c : ColumnSpec) : outline (c.parts .postgresql) = outline (c.parts .mysql) := by
  have hdefault : outline (c.default.toList.map Part.default) = [] := by cases c.default <;> rfl
  have hcomment : outline (c.comment.toList.map Part.comment) = [] := by cases c.comment <;> rfl
  simp only [ColumnSpec.parts, outline_append, outline_fixedParts, hdefault, hcomment, List.nil_append, List.append_nil]

theorem ColumnSpec.defaults_parts (c : ColumnSpec) : defaults (c.parts d) = c.default.toList := by
  have hdefault : defaults (c.default.toList.map Part.default) = c.default.toList := by cases c.default <;> rfl
  have hcomment : defaults (c.comment.toList.map Part.comment) = [] := by cases c.comment <;> rfl
  have hhead : defaults [.lexeme (.name c.name), .lexeme (.word " "), .typeName c.type] = [] := rfl
  cases d <;>
    simp only [ColumnSpec.parts, defaults_append, defaults_fixedParts, hdefault, hcomment, hhead, List.nil_append,
      List.append_nil]

theorem TableSpec.map_flatMap_parts (t : TableSpec) :
    (t.parts style.dialect).map (·.flatMap (Part.lexemes style)) = t.items style := by
  simp [TableSpec.parts, TableSpec.items, ColumnSpec.flatMap_parts, Function.comp_def]

theorem TableSpec.map_outline_parts (t : TableSpec) :
    (t.parts .postgresql).map outline = (t.parts .mysql).map outline := by
  simp [TableSpec.parts, ColumnSpec.outline_parts, Function.comp_def]

theorem TableSpec.flatMap_defaults_parts (t : TableSpec) :
    (t.parts .postgresql).flatMap defaults = (t.parts .mysql).flatMap defaults := by
  simp [TableSpec.parts, ColumnSpec.defaults_parts, List.flatMap_map]

/-- The lexemes of a statement are those of its parts. -/
theorem Statement.flatMap_parts (s : Statement) :
    (s.parts style).flatMap (Part.lexemes style) = s.lexemes style := by
  cases s with
  | createTable t =>
    rw [Statement.parts, Statement.lexemes, ← TableSpec.map_flatMap_parts]
    cases hitems : t.parts style.dialect with
    | nil => simp [enclosed]
    | cons item items =>
      have hjoined := flatMap_joined style (.word ", \n\t") (item :: items)
      rw [List.map_cons] at hjoined
      simp [enclosed, hjoined, Part.lexemes]
  | addColumn table column => simp [Statement.parts, Statement.lexemes, ColumnSpec.flatMap_parts]
  | _ => simp [Statement.parts]

theorem Statement.render_eq_printed (s : Statement) : s.render style = printed style (s.parts style) := by
  rw [printed, flatMap_parts, render]

/-- A statement has the same outline in both dialects. -/
theorem Statement.outline_parts (s : Statement) (n : Int) :
    outline (s.parts ⟨.postgresql, n⟩) = outline (s.parts ⟨.mysql, n⟩) := by
  cases s with
  | createTable t => simp [Statement.parts, outline_enclosed, TableSpec.map_outline_parts]
  | addColumn table column => simp [Statement.parts, ColumnSpec.outline_parts]
  | _ => rfl

/-- A statement has the same defaults in both dialects. -/
theorem Statement.defaults_parts (s : Statement) (n : Int) :
    defaults (s.parts ⟨.postgresql, n⟩) = defaults (s.parts ⟨.mysql, n⟩) := by
  cases s with
  | createTable t => simp [Statement.parts, defaults_enclosed, TableSpec.flatMap_defaults_parts]
  | addColumn table column => simp [Statement.parts, ColumnSpec.defaults_parts]
  | _ => rfl

/-! ### Scripts in the two dialects -/

/-- Statements that are about nothing but the description of a column. -/
def Statement.isComment : Statement → Bool
  | .commentOn .. => true
  | _ => false

/-- The statements without those about descriptions. -/
def uncommented (statements : List Statement) : List Statement := statements.filter (!·.isComment)

theorem uncommented_append (ss ts : List Statement) : uncommented (ss ++ ts) = uncommented ss ++ uncommented ts :=
  List.filter_append ..

theorem uncommented_createStatements (spec : TableSpec) :
    uncommented (createStatements .postgresql spec) = createStatements .mysql spec := by
  have hcomments : uncommented (spec.columns.filterMap (Catalog.commentStatement? spec.name)) = [] := by
    simp only [uncommented, List.filter_eq_nil_iff, List.mem_filterMap]
    rintro s ⟨c, -, hs⟩
    obtain ⟨text, -, rfl⟩ := Option.map_eq_some_iff.mp hs
    simp [Statement.isComment]
  rw [Catalog.createStatements_postgresql]
  exact congrArg (.createTable spec :: ·) hcomments

section Map

variable {ε α β γ : Type} {x : Except ε α}

private theorem map_bind_eq (f : α → Except ε β) (g : β → γ) :
    (x >>= f).map g = x >>= fun a => (f a).map g := by
  cases x <;> rfl

end Map

/-- Tables are created by the same statements in both dialects, or fail to be for the same reason. -/
theorem createAll_uncommented (defined : List TableSpec) (tables : List ResolvedTable) :
    (createAll .postgresql defined tables).map uncommented = createAll .mysql defined tables := by
  induction tables generalizing defined with
  | nil => rfl
  | cons t rest ih =>
    -- the statements for one table come before those for the rest, whatever the definition is
    have htable : ∀ defined spec,
        (do return createStatements .postgresql spec ++ (← createAll .postgresql defined rest)).map uncommented =
          (do return createStatements .mysql spec ++ (← createAll .mysql defined rest) :
            Except ScriptError (List Statement)) := by
      intro defined spec
      rw [← ih]
      cases createAll .postgresql defined rest with
      | error e => rfl
      | ok others => exact congrArg Except.ok (by rw [uncommented_append, uncommented_createStatements])
    rw [createAll, createAll, map_bind_eq]
    refine congrArg _ (funext fun _ => ?_)
    cases defined.find? fun spec => spec.name = t.name with
    | some spec =>
      cases hasItems t with
      | true => rfl
      | false => exact htable defined spec
    | none =>
      refine (map_bind_eq _ _).trans (congrArg _ (funext fun spec => ?_))
      refine (map_bind_eq _ _).trans (congrArg _ (funext fun _ => ?_))
      exact htable _ spec

/-- No statement for a foreign key is a comment. -/
theorem uncommented_of_foreignKeysAll {referables : List Referable} {keys : List (ResolvedTable × ForeignKey)}
    {statements : List Statement} (h : foreignKeysAll referables keys = .ok statements) :
    uncommented statements = statements := by
  induction keys generalizing statements with
  | nil => cases h; rfl
  | cons p rest ih =>
    obtain ⟨t, k⟩ := p
    rw [foreignKeysAll] at h
    obtain ⟨own, hown, h⟩ := bind_eq_ok_iff.mp h
    obtain ⟨others, hothers, hall⟩ := bind_eq_ok_iff.mp h
    cases hall
    have hkeys : uncommented (keyStatements t k) = keyStatements t k := by
      rw [keyStatements]
      cases k.oneToMany <;> rfl
    rw [uncommented_append, ih hothers, eq_keyStatements hown, hkeys]

/-- The scripts in both dialects are made of the same statements but for comments, or fail for the same reason. -/
theorem script_uncommented (tables : List ResolvedTable) :
    (script .postgresql tables).map uncommented = script .mysql tables := by
  rw [script, script, ← createAll_uncommented]
  cases createAll .postgresql [] tables with
  | error e => rfl
  | ok created =>
    refine (map_bind_eq _ _).trans ?_
    refine (map_bind_eq _ _).trans (congrArg _ (funext fun found => ?_))
    dsimp only
    cases hkeys : foreignKeysAll found (tables.flatMap fun t => t.foreignKeys.map (t, ·)) with
    | error e => rfl
    | ok keys =>
      refine congrArg Except.ok ?_
      rw [uncommented_append, uncommented_of_foreignKeysAll hkeys]

/-! ### Texts in the two dialects -/

/-- Whether a text is that of a statement about a description. -/
def isCommentText (text : String) : Bool := "COMMENT ON COLUMN ".toList.isPrefixOf text.toList

/-- The words that a statement begins with. -/
def Statement.opening : Statement → String
  | .createTable _ => "CREATE TABLE "
  | .commentOn .. => "COMMENT ON COLUMN "
  | .addColumn .. | .addForeignKey .. | .addUnique .. => "ALTER TABLE "

theorem Statement.exists_toList_render (style : Style) (s : Statement) :
    ∃ rest, (s.render style).toList = s.opening.toList ++ rest := by
  have hlexemes : ∃ others, s.lexemes style = .word s.opening :: others := by
    cases s <;> exact ⟨_, rfl⟩
  obtain ⟨others, hothers⟩ := hlexemes
  refine ⟨Lexeme.encodeAll style.dialect (others ++ [.word ";"]), ?_⟩
  rw [render, hothers, String.toList_ofList]
  rfl

theorem isCommentText_render (s : Statement) : isCommentText (s.render style) = s.isComment := by
  obtain ⟨rest, hrest⟩ := s.exists_toList_render style
  rw [isCommentText, hrest]
  cases s <;> simp [Statement.opening, Statement.isComment, List.isPrefixOf]

/-- Texts of one statement in PostgreSQL and in MySQL: printed of parts with the same outline and the same defaults. -/
structure Counterparts (stringLength : Int) (text other : String) : Prop where
  statement : ∃ s : Statement, s.isComment = false ∧ text = s.render ⟨.postgresql, stringLength⟩ ∧
    other = s.render ⟨.mysql, stringLength⟩
  parts : ∃ ps qs, text = printed ⟨.postgresql, stringLength⟩ ps ∧ other = printed ⟨.mysql, stringLength⟩ qs ∧
    outline ps = outline qs ∧ defaults ps = defaults qs

theorem counterparts_render {s : Statement} (h : s.isComment = false) (n : Int) :
    Counterparts n (s.render ⟨.postgresql, n⟩) (s.render ⟨.mysql, n⟩) where
  statement := ⟨s, h, rfl, rfl⟩
  parts := ⟨s.parts ⟨.postgresql, n⟩, s.parts ⟨.mysql, n⟩, s.render_eq_printed, s.render_eq_printed,
    s.outline_parts n, s.defaults_parts n⟩

theorem filter_map_render (statements : List Statement) :
    (statements.map (·.render style)).filter (!isCommentText ·) = (uncommented statements).map (·.render style) := by
  rw [List.filter_map]
  congr 2
  funext s
  exact congrArg (!·) (isCommentText_render s)

/-- In both dialects tables can be written or fail to be for the same reason; without comments, the texts in PostgreSQL
are one by one the counterparts of those in MySQL. -/
theorem dialects_agree (tables : List ResolvedTable) (n : Int) :
    (∀ e, generate ⟨.postgresql, n⟩ tables = .error e ↔ generate ⟨.mysql, n⟩ tables = .error e) ∧
      ∀ texts others, generate ⟨.postgresql, n⟩ tables = .ok texts → generate ⟨.mysql, n⟩ tables = .ok others →
        List.Forall₂ (Counterparts n) (texts.filter (!isCommentText ·)) others := by
  simp only [generate, ← script_uncommented]
  cases script .postgresql tables with
  | error e => exact ⟨fun _ => by simp [Except.map], fun _ _ htexts => by cases htexts⟩
  | ok statements =>
    refine ⟨fun _ => by simp [Except.map], fun texts others htexts hothers => ?_⟩
    rw [← Except.ok.inj htexts, ← Except.ok.inj hothers, filter_map_render, List.forall₂_map_left_iff,
      List.forall₂_map_right_iff, List.forall₂_same]
    intro s hs
    have hcomment : s.isComment = false := by simpa using (List.mem_filter.mp hs).2
    exact counterparts_render hcomment n

/-- Keys with a described state, of which there are two, a balance with a default, and a holder. -/
def keys : List ResolvedTable :=
  [{ name := "key", required := some ["state"], primaryKey := some "id", references := [], foreignKeys :=
       [⟨"holder", .integer, ⟨"key", "id"⟩, false⟩]
     columns :=
       [⟨"id", .integer, none, none, none⟩,
        ⟨"state", .string, some (.text "it's \\ new"), some [.text "new", .text "old"], some "State"⟩,
        ⟨"balance", .number, some (.float (-1.5)), none, none⟩] }]

theorem dialects_agree_keys : ∃ texts others, generate ⟨.postgresql, 255⟩ keys = .ok texts ∧
    generate ⟨.mysql, 255⟩ keys = .ok others ∧ texts.length = 5 ∧ others.length = 4 ∧
      List.Forall₂ (Counterparts 255) (texts.filter (!isCommentText ·)) others := by
  obtain ⟨texts, htexts, hlength⟩ : ∃ texts, generate ⟨.postgresql, 255⟩ keys = .ok texts ∧ texts.length = 5 :=
    ⟨_, rfl, rfl⟩
  obtain ⟨others, hothers, hlength'⟩ : ∃ others, generate ⟨.mysql, 255⟩ keys = .ok others ∧ others.length = 4 :=
    ⟨_, rfl, rfl⟩
  exact ⟨texts, others, htexts, hothers, hlength, hlength', (dialects_agree keys 255).2 texts others htexts hothers⟩

end ShapeTables.Sql
