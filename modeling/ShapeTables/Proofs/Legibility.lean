import Mathlib.Data.List.Chain
import ShapeTables.Proofs.Quotes
import ShapeTables.Proofs.Rendering

/-! What a reader finds in statements. The lexemes of a statement are legible, whatever the names, constants and
comments in it are: words, among them the texts of numbers, have no quotes, and names and literals stand between
words that cannot be taken for parts of them. So a reader is outside quotes at the end of a statement, where it
finds the only semicolon that is outside quotes. -/
namespace ShapeTables.Sql

open Shape (Constant)

namespace Lexeme

instance : DecidablePred Quiet
  | .word text => List.decidableBAll (fun c => c ∉ ['\'', '\"', '\x60', ';']) text.toList
  | .name _ | .literal _ => inferInstanceAs (Decidable True)

/-! ### Legible lexemes -/

/-- Words that end what comes before them and begin what comes after. -/
def Divides (w : Lexeme) : Prop := w.Quiet ∧ w.opens ∧ w.closes

instance : DecidablePred Divides := fun w => inferInstanceAs (Decidable (w.Quiet ∧ w.opens ∧ w.closes))

/-- Legible lexemes that can come after any others. -/
structure Follows (lexemes : List Lexeme) : Prop where
  legible : Legible lexemes
  opens : ∀ x ∈ lexemes.head?, x.opens

variable {xs ys : List Lexeme} {w : Lexeme}

theorem legible_nil : Legible [] := ⟨by simp, .nil⟩

theorem legible_singleton (h : w.Quiet) : Legible [w] := ⟨by simpa using h, List.IsChain.singleton w⟩

theorem follows_nil : Follows [] := ⟨legible_nil, by simp⟩

theorem follows_singleton (hw : w.Quiet) (hopens : w.opens) : Follows [w] :=
  ⟨legible_singleton hw, by simpa using hopens⟩

theorem Legible.append (hxs : Legible xs) (hys : Follows ys) : Legible (xs ++ ys) where
  quiet := List.forall_mem_append.mpr ⟨hxs.quiet, hys.legible.quiet⟩
  apart := List.isChain_append.mpr ⟨hxs.apart, hys.legible.apart, fun _ _ y hy => .inr (hys.opens y hy)⟩

theorem Follows.append (hxs : Follows xs) (hys : Follows ys) : Follows (xs ++ ys) where
  legible := hxs.legible.append hys
  opens := by
    cases xs with
    | nil => exact hys.opens
    | cons x xs => exact hxs.opens

/-- Any lexeme may stand before those that can come after it. -/
theorem Follows.cons (hxs : Follows xs) (hw : w.Quiet) : Legible (w :: xs) := (legible_singleton hw).append hxs

/-- A word that begins what comes after it may stand before any lexemes. -/
theorem Legible.cons (hxs : Legible xs) (hw : w.Quiet) (hcloses : w.closes) : Legible (w :: xs) where
  quiet := List.forall_mem_cons.mpr ⟨hw, hxs.quiet⟩
  apart := by
    cases xs with
    | nil => exact List.IsChain.singleton w
    | cons x xs => exact List.isChain_cons_cons.mpr ⟨.inl hcloses, hxs.apart⟩

theorem Legible.after (hxs : Legible xs) (hw : w.Divides) : Follows (w :: xs) :=
  ⟨hxs.cons hw.1 hw.2.2, by simpa using hw.2.1⟩

end Lexeme

open Lexeme

variable {style : Style}

/-! ### Words -/

theorem quiet_of_isNumeric {text : String} (h : ∀ c ∈ text.toList, Decimal.isNumeric c ∨ c.isAlphanum) :
    (Lexeme.word text).Quiet := by
  intro c hc hquote
  simp only [List.mem_cons, List.not_mem_nil, or_false] at hquote
  have := h c hc
  rcases hquote with rfl | rfl | rfl | rfl <;> revert this <;> decide

theorem isNumeric_of_mem_toString {n : Int} {c : Char} (h : c ∈ (toString n).toList) : Decimal.isNumeric c := by
  have hnat : ∀ m : Nat, c ∈ m.repr.toList → Decimal.isNumeric c := by
    intro m hm
    rw [Nat.repr, String.toList_ofList] at hm
    exact Decimal.isNumeric_of_mem_toDigits hm
  rw [Int.toString_eq_repr] at h
  cases n with
  | ofNat m => exact hnat m h
  | negSucc m =>
    rw [Int.repr, String.toList_append, List.mem_append] at h
    rcases h with h | h
    · rw [List.mem_singleton.mp h]
      rfl
    · exact hnat _ h

theorem quiet_constantLexeme (value : Constant) : (constantLexeme value).Quiet := by
  cases value with
  | bool b => cases b <;> decide
  | int n => exact quiet_of_isNumeric fun c hc => .inl (isNumeric_of_mem_toString hc)
  | float x =>
    refine quiet_of_isNumeric fun c hc => ?_
    rcases Decimal.Layout.of_mem_text hc with hnumeric | hc | hc
    · exact .inl hnumeric
    · exact .inr (List.all_eq_true.mp (by decide : Decimal.Layout.plain.infinity.toList.all Char.isAlphanum) c hc)
    · exact .inr (List.all_eq_true.mp (by decide : Decimal.Layout.plain.notANumber.toList.all Char.isAlphanum) c hc)
  | text s => trivial

/-- The text of a string type is a word, with the length in parentheses. -/
theorem quiet_length (n : Int) : (Lexeme.word s!"VARCHAR({n})").Quiet := by
  intro c hc
  have htext : (s!"VARCHAR({n})").toList = "VARCHAR(".toList ++ (toString n).toList ++ ")".toList := by
    rw [← String.toList_append, ← String.toList_append]
    rfl
  rw [htext, List.mem_append, List.mem_append] at hc
  rcases hc with (hc | hc) | hc
  · exact (by decide : (Lexeme.word "VARCHAR(").Quiet) c hc
  · exact quiet_of_isNumeric (fun c hc => .inl (isNumeric_of_mem_toString hc)) c hc
  · exact (by decide : (Lexeme.word ")").Quiet) c hc

theorem quiet_typeText (style : Style) (type : Flat.ColumnType) : (Lexeme.word (style.typeText type)).Quiet := by
  obtain ⟨d, n⟩ := style
  cases d <;> cases type <;> simp only [Style.typeText]
  case postgresql.string =>
    split
    · decide
    · exact quiet_length n
  case mysql.string => exact quiet_length n
  all_goals decide

theorem legible_defaultLexemes (d : Dialect) (value : Constant) : Legible (defaultLexemes d value) := by
  have hquiet := quiet_constantLexeme value
  unfold defaultLexemes
  split
  · next text hlexeme =>
    rw [hlexeme] at hquiet
    split
    · exact ((follows_singleton (by decide) (by decide)).cons hquiet).cons (by decide) (by decide)
    · exact legible_singleton hquiet
  · exact legible_singleton hquiet

/-! ### Statements -/

theorem legible_column (style : Style) (c : ColumnSpec) : Legible (c.lexemes style) := by
  unfold ColumnSpec.lexemes
  extract_lets notNull default comment
  have hnotNull : Follows notNull := by
    unfold notNull
    split
    · exact follows_singleton (by decide) (by decide)
    · exact follows_nil
  have hdefault : Follows default := by
    unfold default
    split
    · exact (legible_defaultLexemes _ _).after (by decide)
    · exact follows_nil
  have hcomment : Follows comment := by
    unfold comment
    split
    · next text _ => exact (legible_singleton (w := .literal text) trivial).after (by decide)
    · exact follows_nil
  have htype : Legible [.name c.name, .word " ", .word (style.typeText c.type)] :=
    ((legible_singleton (quiet_typeText style c.type)).after (by decide)).cons trivial
  refine htype.append ?_
  split
  · exact hdefault.append hnotNull
  · exact (hnotNull.append hcomment).append hdefault

/-- Runs of lexemes with a word between them that divides them. -/
theorem legible_separated {between : Lexeme} (hbetween : between.Divides) {items : List (List Lexeme)}
    (h : ∀ item ∈ items, Legible item) : Legible (separated between items) := by
  induction items with
  | nil => exact legible_nil
  | cons item items ih =>
    obtain ⟨hitem, hitems⟩ := List.forall_mem_cons.mp h
    cases items with
    | nil => exact hitem
    | cons next items => exact hitem.append ((ih hitems).after hbetween)

theorem legible_check (c : Check) : Legible c.lexemes := by
  have hallowed : Legible (separated (.word ", ") (c.allowed.map fun value => [constantLexeme value])) := by
    refine legible_separated (by decide) ?_
    simpa using fun value _ => legible_singleton (quiet_constantLexeme value)
  have hend : Follows [.word "))"] := follows_singleton (by decide) (by decide)
  exact (((hallowed.append hend).after (w := .word " IN (") (by decide)).cons (w := .name c.column) trivial).cons
    (w := .word "CHECK (") (by decide) (by decide)

theorem legible_items (style : Style) (t : TableSpec) : ∀ item ∈ t.items style, Legible item := by
  have hend : Follows [.word ")"] := follows_singleton (by decide) (by decide)
  intro item hitem
  simp only [TableSpec.items, List.mem_append, List.mem_map] at hitem
  rcases hitem with (⟨c, -, rfl⟩ | ⟨key, -, rfl⟩) | ⟨c, -, rfl⟩
  · exact legible_column style c
  · exact (hend.cons (w := .name key) trivial).cons (by decide) (by decide)
  · exact legible_check c

/-- The lexemes of a statement are legible, whatever texts are in it. -/
theorem legible_lexemes (style : Style) (s : Statement) : Legible (s.lexemes style) := by
  have hend : Follows [.word ")"] := follows_singleton (by decide) (by decide)
  cases s with
  | createTable t =>
    have hclose : Follows [.word "\n)"] := follows_singleton (by decide) (by decide)
    have hopen : Follows [.word " ("] := follows_singleton (by decide) (by decide)
    have hhead : Legible [.word "CREATE TABLE ", .name t.name, .word " ("] :=
      (hopen.cons (w := .name t.name) trivial).cons (by decide) (by decide)
    have hlegible := legible_items style t
    rw [Statement.lexemes]
    refine (hhead.append ?_).append hclose
    split
    · exact follows_nil
    · exact (legible_separated (by decide) hlegible).after (by decide)
  | commentOn table column text =>
    have hcolumn : Legible [.name column, .word " IS ", .literal text] :=
      ((legible_singleton (w := .literal text) trivial).after (by decide)).cons trivial
    exact ((hcolumn.after (w := .word ".") (by decide)).cons (w := .name table) trivial).cons (by decide) (by decide)
  | addColumn table column =>
    exact (((legible_column style column).after (w := .word " ADD COLUMN ") (by decide)).cons (w := .name table)
      trivial).cons (w := .word "ALTER TABLE ") (by decide) (by decide)
  | addForeignKey table column target =>
    have htarget : Legible [.name target.table, .word " (", .name target.column, .word ")"] :=
      ((hend.cons (w := .name target.column) trivial).after (by decide)).cons trivial
    have hcolumn : Legible [.name column, .word ") REFERENCES ", .name target.table, .word " (", .name target.column,
        .word ")"] := (htarget.after (by decide)).cons trivial
    exact ((hcolumn.after (w := .word " ADD FOREIGN KEY(") (by decide)).cons (w := .name table) trivial).cons
      (w := .word "ALTER TABLE ") (by decide) (by decide)
  | addUnique table column =>
    exact (((hend.cons (w := .name column) trivial).after (w := .word " ADD UNIQUE (") (by decide)).cons
      (w := .name table) trivial).cons (w := .word "ALTER TABLE ") (by decide) (by decide)

/-! ### Semicolons -/

/-- What a reader finds in the text of a statement: its lexemes, and then a semicolon. -/
theorem pieces_render (style : Style) (s : Statement) : style.dialect.pieces .outside (s.render style).toList =
    some ((s.lexemes style).flatMap (Lexeme.pieces style.dialect) ++ [.bare ';']) := by
  have hsemicolon : style.dialect.isQuote ';' = false := by cases style.dialect <;> rfl
  have hend : style.dialect.pieces .outside [';'] = some [.bare ';'] := pieces_bare hsemicolon
  have htext : (s.render style).toList = Lexeme.encodeAll style.dialect (s.lexemes style) ++ [';'] := by
    rw [Statement.render, String.toList_ofList, Lexeme.encodeAll, List.flatMap_append]
    rfl
  rw [htext, pieces_encodeAll (legible_lexemes style s) (by simp [hsemicolon]), hend]
  rfl

theorem semicolon_not_mem_pieces (d : Dialect) {x : Lexeme} (hx : x.Quiet) : .bare ';' ∉ x.pieces d := by
  cases x with
  | word text =>
    intro h
    obtain ⟨c, hc, heq⟩ := List.mem_map.mp h
    cases heq
    exact absurd (hx _ hc) (by decide)
  | name s =>
    rw [Lexeme.pieces]
    split
    · next hplain =>
      intro h
      obtain ⟨c, hc, heq⟩ := List.mem_map.mp h
      cases heq
      exact absurd (isPlain_or_of_mem hplain hc) (by decide)
    · simp
  | literal s => simp [Lexeme.pieces]

end ShapeTables.Sql

namespace ShapeTables

open Sql

/-- A statement cannot be broken out of: whatever the texts in the tables are, a reader of it is outside quotes at its
end, and finds one semicolon outside quotes, which is its last character. -/
theorem semicolon_only_at_end {style : Style} {tables : List Flat.ResolvedTable} {texts : List String}
    (h : generate style tables = .ok texts) : ∀ text ∈ texts, ∃ found,
      style.dialect.pieces .outside text.toList = some (found ++ [.bare ';']) ∧ .bare ';' ∉ found := by
  obtain ⟨statements, -, rfl⟩ := generate_eq_ok_iff.mp h
  intro text htext
  obtain ⟨s, -, rfl⟩ := List.mem_map.mp htext
  refine ⟨_, pieces_render style s, fun hmem => ?_⟩
  obtain ⟨x, hx, hsemicolon⟩ := List.mem_flatMap.mp hmem
  exact semicolon_not_mem_pieces _ ((legible_lexemes style s).quiet x hx) hsemicolon

/-- A table whose texts try to end the statement. -/
def hostile : Flat.ResolvedTable where
  name := "t\"; DROP TABLE u; --"
  required := none
  primaryKey := some "a\x60; --"
  columns := [⟨"a\x60; --", .string, some (.text "\\'; --"), some [.text "';", .text "\\"], some "it's; 100%"⟩]
  references := []
  foreignKeys := []

theorem semicolons_of_hostile : ∃ texts, generate ⟨.mysql, 255⟩ [hostile] = .ok texts ∧ ∀ text ∈ texts, ∃ found,
    Dialect.mysql.pieces .outside text.toList = some (found ++ [.bare ';']) ∧ .bare ';' ∉ found := by
  have hgenerate : ∃ texts, generate ⟨.mysql, 255⟩ [hostile] = .ok texts := ⟨_, rfl⟩
  obtain ⟨texts, hgenerate⟩ := hgenerate
  exact ⟨texts, hgenerate, semicolon_only_at_end hgenerate⟩

end ShapeTables
