import Mathlib.Data.List.Basic
import ShapeTables.Sql.Lexeme

/-! Reading of quotes. A reader goes through a text one character after another and knows whether it is outside
quotes or inside; inside, a quote that is written twice stands for itself, and in MySQL, except in a name, a
backslash changes what comes after it. What it finds are the characters outside quotes and the contents of the
regions in quotes. It finds the lexemes that a text is written of, where no two of them touch, with percent signs in
quotes doubled. -/
namespace ShapeTables.Sql

/-! ### The reader -/

/-- A part of a text: a character outside quotes, or what a region in quotes stands for. -/
inductive Piece where
  | bare (c : Char)
  | quoted (quote : Char) (content : List Char)
deriving DecidableEq, Repr

/-- Where a reader is. -/
inductive Mode where
  | outside
  /-- In a region in quotes, of which this has been read. -/
  | inside (quote : Char) (content : List Char)
  /-- After a backslash in a region in quotes. -/
  | escaped (quote : Char) (content : List Char)
  /-- After a quote that ends a region, unless it is written twice. -/
  | closing (quote : Char) (content : List Char)
deriving DecidableEq, Repr

namespace Dialect

/-- The quotes are those around literals, for which MySQL has two, and those around names. -/
def isQuote (d : Dialect) (c : Char) : Bool := c == '\'' || c == '\"' || c == d.nameQuote

/-- Whether a character in quotes changes what the next one stands for. -/
def escapes (d : Dialect) (quote c : Char) : Bool := d == .mysql && quote != d.nameQuote && c == '\\'

/-- What a character after a backslash stands for. -/
def unescape : Char → List Char
  | '0' => [Char.ofNat 0]
  | 'b' => ['\x08']
  | 'n' => ['\n']
  | 'r' => ['\r']
  | 't' => ['\t']
  | 'Z' => ['\x1a']
  | '%' => ['\\', '%']
  | '_' => ['\\', '_']
  | c => [c]

/-- What a reader that is outside quotes finds with a character, and where it is then. -/
def enter (d : Dialect) (c : Char) : List Piece × Mode :=
  if d.isQuote c then ([], .inside c []) else ([.bare c], .outside)

/-- What a reader finds with a character, and where it is then. -/
def step (d : Dialect) : Mode → Char → List Piece × Mode
  | .outside, c => d.enter c
  | .inside quote content, c =>
    ([], if c = quote then .closing quote content
      else if d.escapes quote c then .escaped quote content
      else .inside quote (content ++ [c]))
  | .escaped quote content, c => ([], .inside quote (content ++ unescape c))
  | .closing quote content, c =>
    if c = quote then ([], .inside quote (content ++ [c]))
    else (.quoted quote content :: (d.enter c).1, (d.enter c).2)

/-- What a reader finds at the end of a text, which must not be in quotes. -/
def finish : Mode → Option (List Piece)
  | .outside => some []
  | .closing quote content => some [.quoted quote content]
  | .inside .. | .escaped .. => none

/-- All that a reader finds in a text. -/
def pieces (d : Dialect) (mode : Mode) : List Char → Option (List Piece)
  | [] => finish mode
  | c :: rest => (d.pieces (d.step mode c).2 rest).map ((d.step mode c).1 ++ ·)

end Dialect

variable {d : Dialect} {mode : Mode} {quote : Char} {content rest : List Char}

theorem isQuote_nameQuote : d.isQuote d.nameQuote := by
  simp [Dialect.isQuote]

theorem isQuote_apostrophe : d.isQuote '\'' := rfl

theorem apostrophe_ne_nameQuote (d : Dialect) : '\'' ≠ d.nameQuote := by
  cases d <;> decide

theorem not_escapes_nameQuote (c : Char) : d.escapes d.nameQuote c = false := by
  cases d <;> rfl

theorem not_isQuote_percent : d.isQuote '%' = false := by
  cases d <;> rfl

/-! ### Reading steps -/

theorem pieces_bare {c : Char} (hc : d.isQuote c = false) :
    d.pieces .outside (c :: rest) = (d.pieces .outside rest).map (.bare c :: ·) := by
  simp [Dialect.pieces, Dialect.step, Dialect.enter, hc]

/-- Characters that are no quotes are found as they are. -/
theorem pieces_bare_append {cs : List Char} (hcs : ∀ c ∈ cs, d.isQuote c = false) :
    d.pieces .outside (cs ++ rest) = (d.pieces .outside rest).map (cs.map .bare ++ ·) := by
  induction cs with
  | nil => simp
  | cons c cs ih =>
    obtain ⟨hc, hcs⟩ := List.forall_mem_cons.mp hcs
    rw [List.cons_append, pieces_bare hc, ih hcs, Option.map_map]
    rfl

theorem pieces_quote (hquote : d.isQuote quote) :
    d.pieces .outside (quote :: rest) = d.pieces (.inside quote []) rest := by
  simp [Dialect.pieces, Dialect.step, Dialect.enter, hquote]

/-- A region ends with a quote that is not written twice. -/
theorem pieces_closing (hrest : rest.head? ≠ some quote) :
    d.pieces (.closing quote content) rest = (d.pieces .outside rest).map (.quoted quote content :: ·) := by
  cases rest with
  | nil => rfl
  | cons c rest =>
    have hc : c ≠ quote := by simpa using hrest
    rw [Dialect.pieces, Dialect.step, if_neg hc, Dialect.pieces, Option.map_map]
    rfl

theorem pieces_inside_quote :
    d.pieces (.inside quote content) (quote :: rest) = d.pieces (.closing quote content) rest := by
  simp [Dialect.pieces, Dialect.step]

theorem pieces_inside_quotes :
    d.pieces (.inside quote content) (quote :: quote :: rest) = d.pieces (.inside quote (content ++ [quote])) rest := by
  simp [Dialect.pieces, Dialect.step]

theorem pieces_inside_escaped {c c' : Char} (hc : c ≠ quote) (hescapes : d.escapes quote c) :
    d.pieces (.inside quote content) (c :: c' :: rest) =
      d.pieces (.inside quote (content ++ Dialect.unescape c')) rest := by
  simp [Dialect.pieces, Dialect.step, hc, hescapes]

theorem pieces_inside_plain {c : Char} (hc : c ≠ quote) (hescapes : d.escapes quote c = false) :
    d.pieces (.inside quote content) (c :: rest) = d.pieces (.inside quote (content ++ [c])) rest := by
  simp [Dialect.pieces, Dialect.step, hc, hescapes]

/-! ### What is written in quotes -/

theorem double_cons (twice : Char → Bool) (c : Char) (cs : List Char) :
    double twice (c :: cs) = (if twice c then [c, c] else [c]) ++ double twice cs := rfl

theorem eq_backslash_of_escapes {c : Char} (h : d.escapes quote c) : c = '\\' := by
  simp only [Dialect.escapes, Bool.and_eq_true, beq_iff_eq] at h
  exact h.2

/-- A character is written twice in quotes if it is the quote, an escape or a percent sign; only the percent sign
is then read twice. -/
theorem pieces_inside_double {twice : Char → Bool} (hquote : quote ≠ '%')
    (htwice : ∀ c, twice c = (c == quote || c == '%' || d.escapes quote c)) (cs : List Char) :
    d.pieces (.inside quote content) (double twice cs ++ rest) =
      d.pieces (.inside quote (content ++ double (· == '%') cs)) rest := by
  induction cs generalizing content with
  | nil => simp [double]
  | cons c cs ih =>
    have hchar : ∀ rest, d.pieces (.inside quote content) ((if twice c then [c, c] else [c]) ++ rest) =
        d.pieces (.inside quote (content ++ if c == '%' then [c, c] else [c])) rest := by
      intro rest
      by_cases hc : c = quote
      · subst hc
        simp [htwice, hquote, pieces_inside_quotes]
      · by_cases hescapes : d.escapes quote c
        · have hbackslash := eq_backslash_of_escapes hescapes
          subst hbackslash
          simp [htwice, hescapes, pieces_inside_escaped hc hescapes, Dialect.unescape]
        · rw [Bool.not_eq_true] at hescapes
          by_cases hpercent : c = '%'
          · subst hpercent
            simp [htwice, pieces_inside_plain hc hescapes]
          · simp [htwice, hc, hpercent, hescapes, pieces_inside_plain]
    rw [double_cons, double_cons, List.append_assoc, hchar, ih, List.append_assoc]

/-- A region in quotes is found with its percent signs doubled, if no quote follows. -/
theorem pieces_quoted {twice : Char → Bool} (hquote : d.isQuote quote)
    (htwice : ∀ c, twice c = (c == quote || c == '%' || d.escapes quote c)) (cs : List Char)
    (hrest : rest.head? ≠ some quote) :
    d.pieces .outside (quote :: double twice cs ++ [quote] ++ rest) =
      (d.pieces .outside rest).map (.quoted quote (double (· == '%') cs) :: ·) := by
  have hpercent : quote ≠ '%' := by
    rintro rfl
    simp [not_isQuote_percent] at hquote
  rw [List.cons_append, List.cons_append, List.append_assoc, pieces_quote hquote, pieces_inside_double hpercent htwice,
    List.nil_append, List.singleton_append, pieces_inside_quote, pieces_closing hrest]

/-! ### Lexemes -/

/-- Whether a character can be part of a word: letters, digits, the underscore, the dollar sign and all that is
outside ASCII. -/
def isPart (c : Char) : Bool := c.isAlphanum || c == '_' || c == '$' || 0x80 ≤ c.toNat

namespace Lexeme

/-- Words without quotes and semicolons. -/
def Quiet : Lexeme → Prop
  | .word text => ∀ c ∈ text.toList, c ∉ ['\'', '\"', '\x60', ';']
  | .name _ | .literal _ => True

/-- Whether a lexeme begins with a character that is no part of words and names, whatever the dialect. -/
def opens : Lexeme → Bool
  | .word text => text.toList.head?.any (!isPart ·)
  | .name _ | .literal _ => false

/-- Whether a lexeme ends with such a character. -/
def closes : Lexeme → Bool
  | .word text => text.toList.getLast?.any (!isPart ·)
  | .name _ | .literal _ => false

/-- Lexemes that can stand side by side without being taken for one. -/
def Apart (x y : Lexeme) : Prop := x.closes ∨ y.opens

/-- What a reader finds of a lexeme. -/
def pieces (d : Dialect) : Lexeme → List Piece
  | .word text => text.toList.map .bare
  | .name s => if d.leavesPlain s then s.toList.map .bare else [.quoted d.nameQuote (double (· == '%') s.toList)]
  | .literal s => [.quoted '\'' (double (· == '%') s.toList)]

end Lexeme

theorem not_isQuote_of_quiet {c : Char} (hc : c ∉ ['\'', '\"', '\x60', ';']) : d.isQuote c = false := by
  simp only [List.mem_cons, List.not_mem_nil, or_false, not_or] at hc
  cases d <;> simp [Dialect.isQuote, Dialect.nameQuote, hc]

theorem not_isPlain_of_isQuote {c : Char} (hc : d.isQuote c) : isPlain c = false := by
  simp only [Dialect.isQuote, Bool.or_eq_true, beq_iff_eq] at hc
  rcases hc with (rfl | rfl) | rfl
  · decide
  · decide
  · cases d <;> decide

theorem eq_withoutFinalLineFeed (cs : List Char) :
    cs = withoutFinalLineFeed cs ∧ cs.getLast? ≠ some '\n' ∨ cs = withoutFinalLineFeed cs ++ ['\n'] := by
  unfold withoutFinalLineFeed
  split
  · next h => exact .inr (List.dropLast_append_getLast? _ h).symm
  · next h => exact .inl ⟨rfl, h⟩

/-- A name that is written without quotes: plain characters, of which the first is no digit and no dollar sign, and
perhaps a line feed after them. -/
theorem leavesPlain_iff {s : String} : d.leavesPlain s ↔ ∃ first rest,
    withoutFinalLineFeed s.toList = first :: rest ∧ ¬('0' ≤ first ∧ first ≤ '9') ∧ first ≠ '$' ∧
      (∀ c ∈ first :: rest, isPlain c) ∧ s ∉ d.reserved := by
  unfold Dialect.leavesPlain
  cases withoutFinalLineFeed s.toList with
  | nil => simp
  | cons first rest =>
    simp only [Bool.and_eq_true, Bool.not_eq_true', bne_iff_ne, List.all_eq_true, List.contains_iff_mem,
      Bool.eq_false_iff, decide_eq_true_eq, ne_eq, List.cons.injEq, and_assoc]
    constructor
    · intro h
      exact ⟨first, rest, rfl, rfl, h⟩
    · rintro ⟨_, _, rfl, rfl, h⟩
      exact h

theorem isPlain_or_of_mem {s : String} (h : d.leavesPlain s) {c : Char} (hc : c ∈ s.toList) :
    isPlain c ∨ c = '\n' := by
  obtain ⟨first, rest, hcs, -, -, hplain, -⟩ := leavesPlain_iff.mp h
  rcases eq_withoutFinalLineFeed s.toList with ⟨heq, -⟩ | heq
  · rw [heq, hcs] at hc
    exact .inl (hplain c hc)
  · rw [heq, hcs, List.mem_append, List.mem_singleton] at hc
    exact hc.imp_left (hplain c)

theorem not_isQuote_of_leavesPlain {s : String} (h : d.leavesPlain s) : ∀ c ∈ s.toList, d.isQuote c = false := by
  intro c hc
  rcases isPlain_or_of_mem h hc with hplain | rfl
  · rw [Bool.eq_false_iff]
    intro hquote
    simp [not_isPlain_of_isQuote hquote] at hplain
  · cases d <;> rfl

/-- A lexeme is found, followed by what is found in the rest of a text that does not go on with a quote. -/
theorem pieces_encode {x : Lexeme} (hx : x.Quiet) (hrest : ∀ c ∈ rest.head?, x.closes ∨ d.isQuote c = false) :
    d.pieces .outside (x.encode d ++ rest) = (d.pieces .outside rest).map (x.pieces d ++ ·) := by
  have hne : x.closes = false → ∀ quote, d.isQuote quote → rest.head? ≠ some quote := by
    intro hcloses quote hquote hhead
    have := hrest quote hhead
    simp [hcloses, hquote] at this
  cases x with
  | word text => exact pieces_bare_append fun c hc => not_isQuote_of_quiet (hx c hc)
  | name s =>
    rw [Lexeme.encode, Dialect.encodeName, Lexeme.pieces]
    split
    · next hplain => exact pieces_bare_append (not_isQuote_of_leavesPlain hplain)
    · refine pieces_quoted isQuote_nameQuote (fun c => ?_) s.toList (hne rfl _ isQuote_nameQuote)
      rw [not_escapes_nameQuote, Bool.or_false]
  | literal s =>
    refine pieces_quoted isQuote_apostrophe (fun c => ?_) s.toList (hne rfl _ isQuote_apostrophe)
    simp [Dialect.doublesInLiteral, Dialect.escapes, bne_iff_ne.mpr (apostrophe_ne_nameQuote d)]

theorem head?_of_opens {x : Lexeme} (h : x.opens) :
    ∃ text c, x = .word text ∧ text.toList.head? = some c ∧ isPart c = false := by
  cases x with
  | word text =>
    obtain ⟨c, hc, hpart⟩ := (Option.any_eq_true _ _).mp h
    exact ⟨text, c, rfl, hc, by simpa using hpart⟩
  | name s => cases h
  | literal s => cases h

theorem getLast?_of_closes {x : Lexeme} (h : x.closes) :
    ∃ text c, x = .word text ∧ text.toList.getLast? = some c ∧ isPart c = false := by
  cases x with
  | word text =>
    obtain ⟨c, hc, hpart⟩ := (Option.any_eq_true _ _).mp h
    exact ⟨text, c, rfl, hc, by simpa using hpart⟩
  | name s => cases h
  | literal s => cases h

theorem encodeAll_cons (x : Lexeme) (rest : List Lexeme) :
    Lexeme.encodeAll d (x :: rest) = x.encode d ++ Lexeme.encodeAll d rest := rfl

/-- Lexemes without quotes in their words of which no two touch. -/
structure Lexeme.Legible (lexemes : List Lexeme) : Prop where
  quiet : ∀ x ∈ lexemes, x.Quiet
  apart : lexemes.IsChain Lexeme.Apart

/-- A reader finds legible lexemes one after another, if what comes after them is no quote. -/
theorem pieces_encodeAll {lexemes : List Lexeme} (h : Lexeme.Legible lexemes)
    (hrest : ∀ c ∈ rest.head?, d.isQuote c = false) :
    d.pieces .outside (Lexeme.encodeAll d lexemes ++ rest) =
      (d.pieces .outside rest).map (lexemes.flatMap (Lexeme.pieces d) ++ ·) := by
  obtain ⟨hquiet, hapart⟩ := h
  induction lexemes with
  | nil => simp [Lexeme.encodeAll]
  | cons x others ih =>
    obtain ⟨hx, hothers⟩ := List.forall_mem_cons.mp hquiet
    have hnext : ∀ c ∈ (Lexeme.encodeAll d others ++ rest).head?, x.closes ∨ d.isQuote c = false := by
      intro c hc
      cases others with
      | nil => exact .inr (hrest c hc)
      | cons y others =>
        refine (List.isChain_cons_cons.mp hapart).1.imp_right fun hopens => ?_
        obtain ⟨text, c', rfl, hhead, -⟩ := head?_of_opens hopens
        rw [encodeAll_cons, Lexeme.encode, List.append_assoc, List.head?_append, hhead] at hc
        cases hc
        exact not_isQuote_of_quiet (hothers _ List.mem_cons_self c (List.mem_of_head? hhead))
    rw [encodeAll_cons, List.append_assoc, pieces_encode hx hnext, ih hothers hapart.of_cons, Option.map_map,
      List.flatMap_cons]
    congr 1
    funext found
    exact (List.append_assoc _ _ _).symm

end ShapeTables.Sql
