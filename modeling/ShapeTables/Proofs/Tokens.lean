import ShapeTables.Proofs.Legibility

/-! Tokens of statements. What a reader finds outside quotes is put together into words and marks; a word that is not
reserved is a name, and so is what stands in the quotes of names. The tokens of a statement are those of its
lexemes. A name or literal is recovered from its token unless it has a percent sign in quotes, which is then
doubled, or a line feed at the end of a name without quotes, which is then no part of it. -/
namespace ShapeTables.Sql

open Flat (ForeignKey ResolvedTable)
open Shape (Constant)

inductive Token where
  /-- A reserved word or a number. -/
  | word (cs : List Char)
  /-- A character outside quotes that is no part of a word. -/
  | mark (c : Char)
  | name (s : String)
  | literal (s : String)
deriving DecidableEq, Repr

namespace Dialect

/-- The characters of an unquoted name as they are taken: PostgreSQL takes capitals for small letters. -/
def fold (d : Dialect) (cs : List Char) : List Char :=
  match d with
  | .postgresql => cs.map Char.toLower
  | .mysql => cs

/-- Whether a word is a name: it is not reserved, and does not begin like a number or a parameter. -/
def isName (d : Dialect) : List Char → Bool
  | [] => false
  | first :: rest =>
    !('0' ≤ first && first ≤ '9') && first != '$' &&
      !d.reserved.contains (String.ofList ((first :: rest).map Char.toLower))

/-- The token of a word. -/
def wordToken (d : Dialect) (cs : List Char) : Token :=
  if d.isName cs then .name (String.ofList (d.fold cs)) else .word cs

/-- The token of a region in quotes. -/
def quotedToken (d : Dialect) (quote : Char) (content : List Char) : Token :=
  if quote = d.nameQuote then .name (String.ofList content) else .literal (String.ofList content)

end Dialect

/-- Words, marks and regions in quotes. -/
inductive Chunk where
  | word (cs : List Char)
  | mark (c : Char)
  | quoted (quote : Char) (content : List Char)
deriving DecidableEq, Repr

/-- A character of a word before chunks. -/
def Chunk.extend (c : Char) : List Chunk → List Chunk
  | .word cs :: chunks => .word (c :: cs) :: chunks
  | chunks => .word [c] :: chunks

/-- The chunks that the parts of a text make up, each word as long as it can be. -/
def chunks : List Piece → List Chunk
  | [] => []
  | .bare c :: rest => if isPart c then Chunk.extend c (chunks rest) else .mark c :: chunks rest
  | .quoted quote content :: rest => .quoted quote content :: chunks rest

def Chunk.token (d : Dialect) : Chunk → Token
  | .word cs => d.wordToken cs
  | .mark c => .mark c
  | .quoted quote content => d.quotedToken quote content

/-- The tokens of a text, unless it ends in quotes. -/
def Dialect.tokens (d : Dialect) (cs : List Char) : Option (List Token) :=
  (d.pieces .outside cs).map fun found => (chunks found).map (Chunk.token d)

variable {d : Dialect}

/-! ### Chunks -/

/-- Whether a part of a text is part of a word. -/
def Piece.isPart : Piece → Bool
  | .bare c => Sql.isPart c
  | .quoted .. => false

/-- A word does not go on with what does not begin like one. -/
theorem extend_chunks {c : Char} {found : List Piece} (h : ∀ p ∈ found.head?, p.isPart = false) :
    Chunk.extend c (chunks found) = .word [c] :: chunks found := by
  cases found with
  | nil => rfl
  | cons p rest =>
    have hp : p.isPart = false := h p rfl
    cases p with
    | bare c' =>
      have hpart : isPart c' = false := hp
      rw [chunks, hpart]
      rfl
    | quoted quote content => rfl

theorem chunks_ne_nil {found : List Piece} (h : found ≠ []) : chunks found ≠ [] := by
  cases found with
  | nil => exact absurd rfl h
  | cons p rest =>
    cases p with
    | bare c =>
      rw [chunks]
      split
      · unfold Chunk.extend
        split <;> simp
      · simp
    | quoted quote content => simp [chunks]

theorem extend_append {c : Char} {xs ys : List Chunk} (h : xs ≠ []) :
    Chunk.extend c (xs ++ ys) = Chunk.extend c xs ++ ys := by
  cases xs with
  | nil => exact absurd rfl h
  | cons x xs => cases x <;> rfl

/-- The chunks of two texts of which the second does not go on with a word at the end of the first. -/
theorem chunks_append {xs ys : List Piece}
    (h : (∀ p ∈ xs.getLast?, p.isPart = false) ∨ ∀ p ∈ ys.head?, p.isPart = false) :
    chunks (xs ++ ys) = chunks xs ++ chunks ys := by
  induction xs with
  | nil => rfl
  | cons p xs ih =>
    have ih : chunks (xs ++ ys) = chunks xs ++ chunks ys := by
      refine ih (h.imp_left fun hlast q hq => hlast q ?_)
      rw [List.getLast?_cons, hq]
      rfl
    cases p with
    | bare c =>
      rw [List.cons_append, chunks, chunks, ih]
      split
      · next hc =>
        cases xs with
        | nil =>
          have hhead : ∀ p ∈ ys.head?, p.isPart = false := by
            rcases h with h | h
            · have := h (.bare c) rfl
              simp [Piece.isPart, hc] at this
            · exact h
          exact extend_chunks hhead
        | cons q xs => exact extend_append (chunks_ne_nil (List.cons_ne_nil q xs))
      · rfl
    | quoted quote content =>
      rw [List.cons_append, chunks, chunks, ih]
      rfl

/-! ### Names without quotes -/

theorem isPlain_cases {c : Char} (h : isPlain c) :
    'a' ≤ c ∧ c ≤ 'z' ∨ '0' ≤ c ∧ c ≤ '9' ∨ c ∈ ['_', '$', Char.ofNat 0x131, Char.ofNat 0x17F] := by
  simpa [isPlain, or_assoc] using h

theorem isPart_of_isPlain {c : Char} (h : isPlain c) : isPart c := by
  rcases isPlain_cases h with ⟨hlow, hhigh⟩ | ⟨hlow, hhigh⟩ | hother
  · have hlower : c.isLower :=
      Bool.and_eq_true_iff.mpr ⟨decide_eq_true (Char.le_def.mp hlow), decide_eq_true (Char.le_def.mp hhigh)⟩
    have halpha : c.isAlpha := Bool.or_eq_true_iff.mpr (.inr hlower)
    simp [isPart, Char.isAlphanum, halpha]
  · have hdigit : c.isDigit := by
      simp only [Char.isDigit, Bool.and_eq_true, decide_eq_true_eq]
      exact ⟨Char.le_def.mp hlow, Char.le_def.mp hhigh⟩
    simp [isPart, Char.isAlphanum, hdigit]
  · exact List.all_eq_true.mp (by decide : ['_', '$', Char.ofNat 0x131, Char.ofNat 0x17F].all isPart) c hother

/-- Plain characters are no capitals. -/
theorem toLower_of_isPlain {c : Char} (h : isPlain c) : c.toLower = c := by
  rcases isPlain_cases h with ⟨hlow, -⟩ | ⟨-, hhigh⟩ | hother
  · refine dif_neg fun hcapital => ?_
    have hle : c ≤ 'Z' := Char.le_def.mpr hcapital.2
    exact absurd (Char.le_trans hlow hle) (by decide)
  · refine dif_neg fun hcapital => ?_
    have hle : 'A' ≤ c := Char.le_def.mpr hcapital.1
    exact absurd (Char.le_trans hle hhigh) (by decide)
  · have hall : ['_', '$', Char.ofNat 0x131, Char.ofNat 0x17F].all fun c => c.toLower == c := by decide
    exact eq_of_beq (List.all_eq_true.mp hall c hother)

theorem map_toLower_of_isPlain {cs : List Char} (h : ∀ c ∈ cs, isPlain c) : cs.map Char.toLower = cs :=
  (List.map_congr_left fun c hc => toLower_of_isPlain (h c hc)).trans (List.map_id cs)

/-- The characters of a word make up one chunk. -/
theorem chunks_word {first : Char} {rest : List Char} (h : ∀ c ∈ first :: rest, isPart c) :
    chunks ((first :: rest).map .bare) = [.word (first :: rest)] := by
  induction rest generalizing first with
  | nil => simp [chunks, h, Chunk.extend]
  | cons c rest ih =>
    obtain ⟨hfirst, hrest⟩ := List.forall_mem_cons.mp h
    rw [List.map_cons, chunks, if_pos hfirst, ih hrest]
    rfl

/-- A plain name without a line feed at its end is the name that its word is taken for. -/
theorem wordToken_of_leavesPlain {s : String} (h : d.leavesPlain s) (hend : s.toList.getLast? ≠ some '\n') :
    ∃ first rest, s.toList = first :: rest ∧ (∀ c ∈ first :: rest, isPlain c) ∧
      d.wordToken (first :: rest) = .name s := by
  obtain ⟨first, rest, hcs, hdigit, hdollar, hplain, hreserved⟩ := leavesPlain_iff.mp h
  have hs : s.toList = first :: rest := by
    rcases eq_withoutFinalLineFeed s.toList with ⟨heq, -⟩ | heq
    · rw [heq, hcs]
    · rw [heq] at hend
      simp at hend
  have htext : String.ofList (first :: rest) = s := by rw [← hs, String.ofList_toList]
  have hfold : d.fold (first :: rest) = first :: rest := by
    cases d with
    | postgresql => exact map_toLower_of_isPlain hplain
    | mysql => rfl
  have hname : d.isName (first :: rest) := by
    rw [Dialect.isName, map_toLower_of_isPlain hplain, htext]
    simp only [Bool.and_eq_true, Bool.not_eq_true', bne_iff_ne, List.contains_iff_mem, Bool.eq_false_iff,
      decide_eq_true_eq, ne_eq]
    exact ⟨⟨hdigit, hdollar⟩, hreserved⟩
  exact ⟨first, rest, hs, hplain, by rw [Dialect.wordToken, if_pos hname, hfold, htext]⟩

/-- A plain name with a line feed at its end is a word and that line feed. -/
theorem toList_of_getLast?_eq {s : String} (h : d.leavesPlain s) (hend : s.toList.getLast? = some '\n') :
    ∃ first rest, s.toList = first :: rest ++ ['\n'] ∧ ∀ c ∈ first :: rest, isPlain c := by
  obtain ⟨first, rest, hcs, -, -, hplain, -⟩ := leavesPlain_iff.mp h
  refine ⟨first, rest, ?_, hplain⟩
  rcases eq_withoutFinalLineFeed s.toList with ⟨-, hne⟩ | heq
  · exact absurd hend hne
  · rw [← hcs, ← heq]

/-! ### Lexemes -/

namespace Lexeme

/-- The tokens that a reader takes a lexeme for. -/
def found (d : Dialect) (x : Lexeme) : List Token := (chunks (x.pieces d)).map (Chunk.token d)

/-- The tokens that a lexeme is meant to be taken for. -/
def tokens (d : Dialect) : Lexeme → List Token
  | .word text => (chunks (text.toList.map .bare)).map (Chunk.token d)
  | .name s => [.name s]
  | .literal s => [.literal s]

/-- Names and literals that are the same after they have been written and read. -/
def Survives (d : Dialect) : Lexeme → Prop
  | .word _ => True
  | .name s => '%' ∉ s.toList ∧ (d.leavesPlain s → s.toList.getLast? ≠ some '\n')
  | .literal s => '%' ∉ s.toList

end Lexeme

theorem length_double (twice : Char → Bool) (cs : List Char) :
    (double twice cs).length = cs.length + cs.countP twice := by
  induction cs with
  | nil => rfl
  | cons c cs ih =>
    rw [double_cons, List.length_append, ih, List.countP_cons]
    split <;> simp <;> omega

theorem double_eq_self_iff {twice : Char → Bool} {cs : List Char} :
    double twice cs = cs ↔ ∀ c ∈ cs, twice c = false := by
  constructor
  · intro h c hc
    have hlength := length_double twice cs
    rw [h] at hlength
    have hcount : cs.countP twice = 0 := by omega
    simpa using List.countP_eq_zero.mp hcount c hc
  · intro h
    induction cs with
    | nil => rfl
    | cons c cs ih =>
      obtain ⟨hc, hcs⟩ := List.forall_mem_cons.mp h
      rw [double_cons, hc, ih hcs]
      rfl

theorem ofList_double_eq_iff {s : String} :
    String.ofList (double (· == '%') s.toList) = s ↔ '%' ∉ s.toList := by
  rw [← String.toList_inj, String.toList_ofList, double_eq_self_iff]
  constructor
  · intro h hmem
    simpa using h _ hmem
  · intro h c hc
    rw [beq_eq_false_iff_ne]
    rintro rfl
    exact h hc

theorem found_quoted (quote : Char) (content : List Char) :
    (chunks [.quoted quote content]).map (Chunk.token d) = [d.quotedToken quote content] := rfl

/-- What a reader takes a lexeme for is what it is meant for exactly when it survives. -/
theorem found_eq_tokens_iff (d : Dialect) (x : Lexeme) : x.found d = x.tokens d ↔ x.Survives d := by
  cases x with
  | word text => exact iff_of_true rfl trivial
  | name s =>
    cases hplain : d.leavesPlain s with
    | false =>
      have hfound : (Lexeme.name s).found d = [.name (String.ofList (double (· == '%') s.toList))] := by
        rw [Lexeme.found, Lexeme.pieces, if_neg (by simp [hplain]), found_quoted, Dialect.quotedToken, if_pos rfl]
      simp [hfound, Lexeme.tokens, Lexeme.Survives, ofList_double_eq_iff, hplain]
    | true =>
      have hpercent : '%' ∉ s.toList := fun hc => absurd (isPlain_or_of_mem hplain hc) (by decide)
      have hpieces : (Lexeme.name s).pieces d = s.toList.map .bare := if_pos hplain
      simp only [Lexeme.found, hpieces, Lexeme.tokens, Lexeme.Survives, hplain, forall_const]
      by_cases hend : s.toList.getLast? = some '\n'
      · obtain ⟨first, rest, hs, hall⟩ := toList_of_getLast?_eq hplain hend
        have hfound : chunks (s.toList.map .bare) = [.word (first :: rest), .mark '\n'] := by
          rw [hs, List.map_append, chunks_append (.inr (by simp [Piece.isPart, isPart])),
            chunks_word fun c hc => isPart_of_isPlain (hall c hc)]
          rfl
        simp [hfound, hend]
      · obtain ⟨first, rest, hs, hall, htoken⟩ := wordToken_of_leavesPlain hplain hend
        have hfound : (chunks (s.toList.map .bare)).map (Chunk.token d) = [.name s] := by
          rw [hs, chunks_word fun c hc => isPart_of_isPlain (hall c hc), List.map_singleton, Chunk.token, htoken]
        simp [hfound, hpercent, hend]
  | literal s =>
    have hfound : (Lexeme.literal s).found d = [.literal (String.ofList (double (· == '%') s.toList))] := by
      rw [Lexeme.found, Lexeme.pieces, found_quoted, Dialect.quotedToken,
        if_neg (apostrophe_ne_nameQuote d)]
    simp [hfound, Lexeme.tokens, Lexeme.Survives, ofList_double_eq_iff]

example : (Lexeme.name "users\n").found .postgresql = [.name "users", .mark '\n'] := by decide

/-! ### Statements -/

theorem isPart_head?_of_opens {x : Lexeme} (h : x.opens) (rest : List Piece) :
    ∀ p ∈ (x.pieces d ++ rest).head?, p.isPart = false := by
  obtain ⟨text, c, rfl, hc, hpart⟩ := head?_of_opens h
  intro p hp
  rw [Lexeme.pieces, List.head?_append, List.head?_map, hc] at hp
  cases hp
  exact hpart

theorem isPart_getLast?_of_closes {x : Lexeme} (h : x.closes) : ∀ p ∈ (x.pieces d).getLast?, p.isPart = false := by
  obtain ⟨text, c, rfl, hc, hpart⟩ := getLast?_of_closes h
  intro p hp
  rw [Lexeme.pieces, List.getLast?_map, hc] at hp
  cases hp
  exact hpart

/-- Of lexemes that stand apart, no word goes on from one to the next. -/
theorem chunks_flatMap {lexemes : List Lexeme} (h : lexemes.IsChain Lexeme.Apart) :
    chunks (lexemes.flatMap (Lexeme.pieces d)) = lexemes.flatMap fun x => chunks (x.pieces d) := by
  induction lexemes with
  | nil => rfl
  | cons x others ih =>
    rw [List.flatMap_cons, List.flatMap_cons, ← ih h.of_cons]
    refine chunks_append ?_
    cases others with
    | nil => exact .inr (by simp)
    | cons y others =>
      exact (List.isChain_cons_cons.mp h).1.imp isPart_getLast?_of_closes fun hopens =>
        isPart_head?_of_opens hopens _

/-- The tokens of the text of a statement are those of its lexemes, and a semicolon. -/
theorem tokens_render (style : Style) (s : Statement) : style.dialect.tokens (s.render style).toList =
    some ((s.lexemes style).flatMap (Lexeme.found style.dialect) ++ [.mark ';']) := by
  have hend : chunks ((s.lexemes style).flatMap (Lexeme.pieces style.dialect) ++ [.bare ';']) =
      (s.lexemes style).flatMap (fun x => chunks (x.pieces style.dialect)) ++ [.mark ';'] := by
    rw [chunks_append (.inr (by simp [Piece.isPart, isPart])), chunks_flatMap (legible_lexemes style s).apart]
    rfl
  rw [Dialect.tokens, pieces_render, Option.map_some, hend, List.map_append, List.map_flatMap]
  rfl

end ShapeTables.Sql
