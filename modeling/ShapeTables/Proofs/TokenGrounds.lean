import Mathlib.Algebra.Group.Nat.Defs
import ShapeTables.Proofs.Grounds
import ShapeTables.Yaml.Stream

/-! Grounds of failures in texts of YAML. Where the scanner of tokens stops for another reason than the grammar, the text
has an escape beyond the last character, or a directive with a version of too many digits. -/
namespace ShapeTables.Yaml

open Text

/-- A version in a directive with a number of too many digits, the first one or the one after the point. -/
structure LongVersion (spaces lead digits after : List Char) : Prop where
  eq_of_mem : ∀ c ∈ spaces, c = ' '
  lead_eq : lead = [] ∨ ∃ major : List Char, (∀ c ∈ major, isDecimal c) ∧ lead = major ++ ['.']
  isDecimal_of_mem : ∀ c ∈ digits, isDecimal c
  maxDigits_lt : maxDigits < digits.length
  ends : ¬after.head?.any isDecimal

/-- Escapes beyond the last character and long versions are grounds of their own. -/
inductive Ground : List Char → Failure → Prop where
  | malformed {part : List Char} : Ground part .malformed
  | noCharacter {digits after : List Char} (hsize : digits.length = 8) (hdigits : digits.all isHexadecimal)
    (hbeyond : 0x10FFFF < number 16 digits) (hrange : number 16 digits ≤ 0x7FFFFFFF) :
    Ground ('\\' :: 'U' :: digits ++ after) .noCharacter
  | hugeCharacter {digits after : List Char} (hsize : digits.length = 8) (hdigits : digits.all isHexadecimal)
    (hrange : 0x7FFFFFFF < number 16 digits) : Ground ('\\' :: 'U' :: digits ++ after) .hugeCharacter
  | version {spaces lead digits after : List Char} (h : LongVersion spaces lead digits after) :
    Ground ('%' :: "YAML".toList ++ spaces ++ lead ++ digits ++ after) (.longNumeral digits.length)

/-- A reading of the front of a text. -/
abbrev Sound {α : Type} (cs : List Char) (r : Except Failure (α × List Char)) : Prop := Grounded Ground Prod.snd cs r

section Sound

variable {α β : Type} {cs after : List Char}

theorem grounded_malformed {left : α → List Char} (cs : List Char) :
    Grounded Ground left cs (.error .malformed : Except Failure α) := .of_error .malformed

/-! ### Names and tags -/

theorem readName_sound (cs : List Char) : Sound cs (readName cs) := by
  unfold readName
  dsimp only
  split_ifs
  · exact grounded_malformed cs
  · exact List.dropWhile_suffix _

theorem readOctets_sound (cs : List Char) : Sound cs (readOctets cs) := by
  fun_induction readOctets cs with
  | case1 a b rest _ ih => exact ih.andThen (List.suffix_append ['%', a, b] rest) fun _ rest => List.suffix_refl rest
  | case2 => exact grounded_malformed _
  | case3 => exact grounded_malformed _
  | case4 cs => exact List.suffix_refl cs

theorem readTagChars_sound (fuel : Nat) (cs : List Char) : Sound cs (readTagChars fuel cs) := by
  fun_induction readTagChars fuel cs with
  | case1 cs => exact List.suffix_refl cs
  | case2 => exact List.suffix_refl []
  | case3 fuel rest ih =>
    refine (readOctets_sound ('%' :: rest)).andThen (List.suffix_refl _) fun octets rest => ?_
    dsimp only
    split
    · exact grounded_malformed rest
    · exact (ih rest).andThen (List.suffix_refl rest) fun _ rest => List.suffix_refl rest
  | case4 fuel c rest _ _ ih => exact ih.andThen (List.suffix_cons c rest) fun _ rest => List.suffix_refl rest
  | case5 fuel c rest => exact List.suffix_refl (c :: rest)

theorem readTagText_sound (cs : List Char) : Sound cs (readTagText cs) := by
  unfold readTagText
  refine (readTagChars_sound cs.length cs).andThen (List.suffix_refl cs) fun chars rest => ?_
  dsimp only
  split_ifs
  · exact grounded_malformed rest
  · exact List.suffix_refl rest

theorem readHandle_sound (cs : List Char) : Sound cs (readHandle cs) := by
  unfold readHandle
  split
  · next rest =>
    dsimp only
    split
    · next after hafter =>
      have hname : '!' :: after <:+ rest := hafter ▸ List.dropWhile_suffix _
      exact ((List.suffix_cons '!' after).trans hname).trans (List.suffix_cons '!' rest)
    · split_ifs
      · exact List.suffix_cons '!' rest
      · exact grounded_malformed _
  · exact grounded_malformed _

theorem readTag_sound (cs : List Char) : Sound ('!' :: cs) (readTag cs) := by
  have hend : ∀ (t : Token) (rest : List Char), Sound rest (if atSpace rest then .ok (t, rest) else .error .malformed) := by
    intro t rest
    split_ifs
    · exact List.suffix_refl rest
    · exact grounded_malformed rest
  unfold readTag
  dsimp only
  split
  · next rest =>
    refine (readTagText_sound rest).andThen (List.suffix_append ['!', '<'] rest) fun suffix rest => ?_
    dsimp only
    split
    · next rest => exact (hend _ rest).mono (List.suffix_cons '>' rest)
    · exact grounded_malformed _
  · split_ifs
    · exact (hend _ _).mono (List.suffix_cons '!' _)
    · refine (readHandle_sound _).andThen (List.suffix_refl _) fun handle rest => ?_
      exact (readTagText_sound rest).andThen (List.suffix_refl rest) fun suffix rest => hend _ rest
    · exact (readTagText_sound _).andThen (List.suffix_cons '!' _) fun suffix rest => hend _ rest

/-! ### Directives -/

/-- The digits of a number are taken off the front of a text, or they are too many. -/
theorem readNumber_cases (cs : List Char) :
    readNumber cs = .error .malformed ∨ ∃ digits after : List Char, cs = digits ++ after ∧ (∀ c ∈ digits, isDecimal c) ∧
      (readNumber cs = .ok (number 10 digits, after) ∨
        (maxDigits < digits.length ∧ ¬after.head?.any isDecimal) ∧ readNumber cs = .error (.longNumeral digits.length)) := by
  unfold readNumber
  dsimp only
  split_ifs with hempty hlong
  · exact .inl rfl
  · exact .inr ⟨_, _, List.takeWhile_append_dropWhile.symm, List.all_eq_true.mp List.all_takeWhile,
      .inr ⟨⟨hlong, not_any_head?_dropWhile isDecimal cs⟩, rfl⟩⟩
  · exact .inr ⟨_, _, List.takeWhile_append_dropWhile.symm, List.all_eq_true.mp List.all_takeWhile, .inl rfl⟩

/-- Where a version has a number of too many digits, its directive is the ground. -/
theorem LongVersion.grounded {spaces lead digits : List Char} {left : α → List Char}
    (h : LongVersion spaces lead digits after) (hcs : cs = spaces ++ (lead ++ (digits ++ after))) :
    Grounded Ground left ('%' :: "YAML".toList ++ cs) (.error (.longNumeral digits.length) : Except Failure α) := by
  have htext : '%' :: "YAML".toList ++ cs = '%' :: "YAML".toList ++ spaces ++ lead ++ digits ++ after := by
    simp [hcs]
  exact .of_error (htext ▸ .version h)

theorem readVersion_sound (cs : List Char) : Sound ('%' :: "YAML".toList ++ cs) (readVersion cs) := by
  obtain ⟨spaces, hspaces, hcs⟩ : ∃ spaces : List Char, (∀ c ∈ spaces, c = ' ') ∧ cs = spaces ++ skipSpaces cs :=
    ⟨cs.takeWhile (· = ' '), fun c hc => of_decide_eq_true (List.all_eq_true.mp List.all_takeWhile c hc),
      List.takeWhile_append_dropWhile.symm⟩
  unfold readVersion
  rcases readNumber_cases (skipSpaces cs) with hbad | ⟨major, rest, hmajor, hdecimal, hread | ⟨hlong, hread⟩⟩
  · rw [hbad]
    exact grounded_malformed _
  · rw [hread]
    simp only [bind, Except.bind]
    split
    · next rest =>
      rcases readNumber_cases rest with hbad | ⟨minor, after, hminor, hdecimal', hread | ⟨hlong, hread⟩⟩
      · rw [hbad]
        exact grounded_malformed _
      · rw [hread]
        dsimp only
        split_ifs
        · have hafter : after <:+ skipSpaces cs := by
            rw [hmajor, hminor]
            exact (List.suffix_append minor after).trans (List.suffix_append_of_suffix (List.suffix_cons '.' _))
          exact (hafter.trans (List.dropWhile_suffix _)).trans (List.suffix_append _ cs)
        · exact grounded_malformed _
      · rw [hread]
        have hlead : major ++ ['.'] = [] ∨ ∃ digits : List Char, (∀ c ∈ digits, isDecimal c) ∧
            major ++ ['.'] = digits ++ ['.'] := .inr ⟨major, hdecimal, rfl⟩
        exact LongVersion.grounded ⟨hspaces, hlead, hdecimal', hlong.1, hlong.2⟩ (hcs.trans (by simp [hmajor, hminor]))
    · exact grounded_malformed _
  · rw [hread]
    exact LongVersion.grounded ⟨hspaces, .inl rfl, hdecimal, hlong.1, hlong.2⟩ (hcs.trans (by simp [hmajor]))

theorem readTagDirective_sound (cs : List Char) : Sound cs (readTagDirective cs) := by
  unfold readTagDirective
  refine (readHandle_sound (skipSpaces cs)).andThen (List.dropWhile_suffix _) fun handle rest => ?_
  dsimp only
  split_ifs
  · exact grounded_malformed rest
  · refine (readTagText_sound (skipSpaces rest)).andThen (List.dropWhile_suffix _) fun lead rest => ?_
    dsimp only
    split_ifs
    · exact List.suffix_refl rest
    · exact grounded_malformed rest

theorem readDirective_sound (cs : List Char) : Sound ('%' :: cs) (readDirective cs) := by
  have hcs : cs = cs.takeWhile isNameChar ++ cs.dropWhile isNameChar := List.takeWhile_append_dropWhile.symm
  have hrest : cs.dropWhile isNameChar <:+ '%' :: cs := (List.dropWhile_suffix _).trans (List.suffix_cons '%' cs)
  unfold readDirective
  dsimp only
  split_ifs with hname hversion
  · exact grounded_malformed _
  · have hsound := readVersion_sound (cs.dropWhile isNameChar)
    rwa [← hversion, List.cons_append, ← hcs] at hsound
  · exact (readTagDirective_sound _).mono hrest
  · exact (List.dropWhile_suffix _).trans hrest

/-! ### Scalars in quotes -/

theorem readBreaks_sound (lineStart : Bool) (cs : List Char) : Sound cs (readBreaks lineStart cs) := by
  fun_induction readBreaks lineStart cs with
  | case1 => exact List.suffix_refl []
  | case2 => exact grounded_malformed _
  | case3 lineStart c rest _ _ ih => exact ih.mono (List.suffix_cons c rest)
  | case4 lineStart c rest _ _ _ ih => exact ih.andThen (List.suffix_cons c rest) fun _ rest => List.suffix_refl rest
  | case5 lineStart c rest => exact List.suffix_refl (c :: rest)

theorem digitValue?_lt {c : Char} {d : Nat} (h : digitValue? c = some d) : d < 16 := by
  unfold digitValue? at h
  have hle {a b : Char} (h : a ≤ b) : a.toNat ≤ b.toNat := h
  split_ifs at h with hdecimal hsmall hcapital
  · obtain rfl := Option.some.inj h
    have hnine := hle hdecimal.2
    simp only [Char.reduceToNat] at hnine ⊢
    omega
  · obtain rfl := Option.some.inj h
    have hf := hle hsmall.2
    simp only [Char.reduceToNat] at hf ⊢
    omega
  · obtain rfl := Option.some.inj h
    have hf := hle hcapital.2
    simp only [Char.reduceToNat] at hf ⊢
    omega

theorem number_lt (digits : List Char) : number 16 digits < 16 ^ digits.length := by
  have hfold : ∀ n, digits.foldl (fun n c => n * 16 + (digitValue? c).getD 0) n < (n + 1) * 16 ^ digits.length := by
    induction digits with
    | nil => simp
    | cons c digits ih =>
      intro n
      have hdigit : (digitValue? c).getD 0 < 16 := by
        cases hc : digitValue? c with
        | none => simp
        | some d => simpa using digitValue?_lt hc
      rw [List.foldl_cons, List.length_cons, Nat.pow_succ, Nat.mul_comm (16 ^ _), ← Nat.mul_assoc]
      exact Nat.lt_of_lt_of_le (ih _) (Nat.mul_le_mul_right _ (by omega))
  simpa [number] using hfold 0

/-- The code point of an escape is that of its digits; only an escape of eight digits goes beyond the last character. -/
theorem readCode?_spec {code : Nat} (h : readCode? cs = some (code, after)) :
    after <:+ cs ∧ (0x10FFFF < code → ∃ digits : List Char, cs = 'U' :: digits ++ after ∧ digits.length = 8 ∧
      digits.all isHexadecimal ∧ number 16 digits = code) := by
  cases cs with
  | nil => cases h
  | cons c rest =>
    simp only [readCode?, Option.bind_eq_bind, Option.bind_eq_some_iff] at h
    obtain ⟨size, hsize, h⟩ := h
    split_ifs at h with hdigits
    obtain ⟨rfl, rfl⟩ := Prod.mk.inj (Option.some.inj h)
    refine ⟨(List.drop_suffix size rest).trans (List.suffix_cons c rest), fun hbeyond => ?_⟩
    have hlt := number_lt (rest.take size)
    rw [hdigits.1] at hlt
    have hsizes : ∀ e ∈ codeEscapes, e.2 ≤ 4 ∨ e = ('U', 8) := by decide
    obtain ⟨before, behind, hentry, -⟩ := List.lookup_eq_some_iff.mp hsize
    rcases hsizes (c, size) (by simp [hentry]) with hshort | hlong
    · have hpow : 16 ^ size ≤ 16 ^ 4 := Nat.pow_le_pow_right (by decide) hshort
      omega
    · cases hlong
      exact ⟨rest.take 8, by simp, hdigits.1, hdigits.2, rfl⟩

/-- A code point is joined with a surrogate only to one that is a character. -/
theorem joinEscaped_spec (code : Nat) (rest : List Char) :
    (joinEscaped code rest).2 <:+ rest ∧ ((joinEscaped code rest).1 = code ∨ (joinEscaped code rest).1 ≤ 0x10FFFF) := by
  unfold joinEscaped
  dsimp only
  split
  · next after =>
    cases hlow : readCode? after with
    | none => simp
    | some found =>
      cases hpair : surrogatePair? code found.1 with
      | none => simp [hpair]
      | some joined =>
        simp only [Option.bind_some, hpair, Option.map_some, Option.getD_some]
        refine ⟨(readCode?_spec hlow).1.trans (List.suffix_cons '\\' after), .inr ?_⟩
        unfold surrogatePair? at hpair
        split_ifs at hpair with hboth
        simp only [isHighSurrogate, isLowSurrogate, Bool.and_eq_true, decide_eq_true_eq] at hboth
        have := Option.some.inj hpair
        omega
  · simp

theorem readEscape_sound (cs : List Char) : Sound ('\\' :: cs) (readEscape cs) := by
  cases cs with
  | nil => exact grounded_malformed _
  | cons c rest =>
    have hrest : rest <:+ '\\' :: c :: rest := List.suffix_append ['\\', c] rest
    rw [readEscape]
    split
    · exact hrest
    · split
      · next code after hcode =>
        obtain ⟨hafter, hbeyond⟩ := readCode?_spec hcode
        obtain ⟨hjoined, hsame⟩ := joinEscaped_spec code after
        have hdigits (h : 0x10FFFF < (joinEscaped code after).1) : ∃ digits : List Char,
            '\\' :: c :: rest = '\\' :: 'U' :: digits ++ after ∧ digits.length = 8 ∧ digits.all isHexadecimal ∧
              number 16 digits = (joinEscaped code after).1 := by
          obtain hsame | hlow := hsame
          · obtain ⟨digits, hcs, hsize, hall, hnumber⟩ := hbeyond (hsame ▸ h)
            exact ⟨digits, by rw [hcs]; rfl, hsize, hall, hnumber.trans hsame.symm⟩
          · exact absurd hlow (Nat.not_le_of_lt h)
        simp only [charOfCode]
        split_ifs with hhuge hmany
        · obtain ⟨digits, hcs, hsize, hall, hnumber⟩ := hdigits (by omega)
          rw [hcs]
          exact .of_error (.hugeCharacter hsize hall (hnumber ▸ hhuge))
        · obtain ⟨digits, hcs, hsize, hall, hnumber⟩ := hdigits hmany
          rw [hcs]
          exact .of_error (.noCharacter hsize hall (hnumber ▸ hmany) (hnumber ▸ Nat.not_lt.mp hhuge))
        · exact (hjoined.trans hafter).trans (List.suffix_cons '\\' _)
      · split_ifs
        · exact (readBreaks_sound true rest).mono hrest
        · exact grounded_malformed _

theorem readQuotedChars_sound (double : Bool) (fuel : Nat) (cs : List Char) :
    Sound cs (readQuotedChars double fuel cs) := by
  fun_induction readQuotedChars double fuel cs with
  | case1 cs => exact grounded_malformed cs
  | case2 => exact grounded_malformed []
  | case3 fuel c goOn _ rest ih =>
    exact (ih rest).andThen (List.suffix_append [c, '\''] rest) fun _ rest => List.suffix_refl rest
  | case4 fuel c _ rest => exact List.suffix_cons c rest
  | case5 fuel c rest => exact List.suffix_cons c rest
  | case6 fuel c rest goOn _ _ hescape ih =>
    obtain rfl : c = '\\' := by simp_all
    refine (readEscape_sound rest).andThen (List.suffix_refl _) fun meant rest => ?_
    exact (ih rest).andThen (List.suffix_refl rest) fun _ rest => List.suffix_refl rest
  | case7 => exact grounded_malformed _
  | case8 fuel c rest goOn _ _ _ _ next after hnext _ ih =>
    have hafter : after <:+ c :: rest := (List.suffix_cons next after).trans (hnext ▸ List.dropWhile_suffix _)
    refine (readBreaks_sound true after).andThen hafter fun breaks rest => ?_
    exact (ih rest).andThen (List.suffix_refl rest) fun _ rest => List.suffix_refl rest
  | case9 fuel c rest goOn _ _ _ _ blanks next after hnext _ ih =>
    exact (ih (next :: after)).andThen (hnext ▸ List.dropWhile_suffix _) fun _ rest => List.suffix_refl rest
  | case10 fuel c rest goOn _ _ _ _ ih =>
    exact (ih rest).andThen (List.suffix_cons c rest) fun _ rest => List.suffix_refl rest

theorem readQuoted_sound (double : Bool) (cs : List Char) : Sound cs (readQuoted double cs) :=
  (readQuotedChars_sound double _ cs).andThen (List.suffix_refl cs) fun _ rest => List.suffix_refl rest

end Sound

/-! ### Cursors -/

namespace Cursor

theorem next_suffix (c : Cursor) : c.next.rest <:+ c.rest := by
  unfold next
  split
  · exact List.suffix_refl c.rest
  · next ch rest hrest =>
    split_ifs
    all_goals exact hrest ▸ List.suffix_cons ch rest

theorem forward_suffix (c : Cursor) (n : Nat) : (c.forward n).rest <:+ c.rest := by
  induction n generalizing c with
  | zero => exact List.suffix_refl c.rest
  | succ n ih => exact (ih c.next).trans c.next_suffix

theorem endLine?_suffix {c after : Cursor} (h : c.endLine? = some after) : after.rest <:+ c.rest := by
  unfold endLine? at h
  dsimp only at h
  split_ifs at h
  all_goals
    obtain rfl := Option.some.inj h
    refine (next_suffix _).trans ?_
  · exact (forward_suffix _ _).trans (forward_suffix c _)
  · exact forward_suffix c _

end Cursor

section Scalars

theorem plainBreaks?_suffix {lineStart : Bool} {c after : Cursor} {fuel : Nat} {breaks : List Char}
    (h : plainBreaks? lineStart c fuel = some (breaks, after)) : after.rest <:+ c.rest := by
  fun_induction plainBreaks? lineStart c fuel generalizing breaks with
  | case1 lineStart c =>
    cases h
    exact List.suffix_refl after.rest
  | case2 => cases h
  | case3 lineStart c fuel _ _ ih => exact (ih h).trans c.next_suffix
  | case4 lineStart c fuel _ ch _ _ _ ih =>
    obtain ⟨found, hfound, hsame⟩ := Option.map_eq_some_iff.mp h
    obtain ⟨-, rfl⟩ := Prod.mk.inj hsame
    exact (ih hfound).trans c.next_suffix
  | case5 lineStart c =>
    cases h
    exact List.suffix_refl after.rest
  | case6 lineStart c =>
    cases h
    exact List.suffix_refl after.rest

theorem readGap_suffix (c : Cursor) : (readGap c).after.rest <:+ c.rest := by
  have hspaces : (c.forward (c.rest.takeWhile (· = ' ')).length).rest <:+ c.rest := c.forward_suffix _
  unfold readGap
  dsimp only
  split
  · by_cases hbreak : isBreak ‹Char›
    · simp only [hbreak, if_true]
      split
      · exact (Cursor.next_suffix _).trans hspaces
      · next hbreaks => exact ((plainBreaks?_suffix hbreaks).trans (Cursor.next_suffix _)).trans hspaces
    · simp only [hbreak, Bool.false_eq_true, if_false]
      exact hspaces
  · exact hspaces

theorem readPlainFrom_suffix (flow : Bool) (indent : Int) (before : List Char) (hasBreak : Bool) (c : Cursor)
    (fuel : Nat) : (readPlainFrom flow indent before hasBreak c fuel).after.rest <:+ c.rest := by
  have hgap (c : Cursor) (n : Nat) : (readGap (c.forward n)).after.rest <:+ c.rest :=
    (readGap_suffix _).trans (c.forward_suffix n)
  fun_induction readPlainFrom flow indent before hasBreak c fuel with
  | case1 before hasBreak c => exact List.suffix_refl c.rest
  | case2 before hasBreak c => exact List.suffix_refl c.rest
  | case3 before hasBreak c => exact hgap c _
  | case4 before hasBreak c => exact hgap c _
  | case5 before hasBreak c fuel run _ gap text _ _ more ih => exact ih.trans (hgap c _)

theorem leadingBreaks_suffix (widest : Nat) (c : Cursor) (fuel : Nat) :
    (leadingBreaks widest c fuel).2.2.rest <:+ c.rest := by
  fun_induction leadingBreaks widest c fuel with
  | case1 widest c => exact List.suffix_refl c.rest
  | case2 widest c fuel _ ih => exact ih.trans c.next_suffix
  | case3 widest c fuel ch _ _ _ breaks wider after hnext ih =>
    rw [hnext] at ih
    exact ih.trans c.next_suffix
  | case4 widest c => exact List.suffix_refl c.rest
  | case5 widest c => exact List.suffix_refl c.rest

theorem innerBreaks_suffix (indent : Nat) (c : Cursor) (fuel : Nat) :
    (innerBreaks indent c fuel).2.rest <:+ c.rest := by
  fun_induction innerBreaks indent c fuel with
  | case1 c => exact List.suffix_refl c.rest
  | case2 c fuel ch _ _ ih => exact ih.trans c.next_suffix
  | case3 c fuel ch _ _ _ breaks after hnext ih =>
    rw [hnext] at ih
    exact ih.trans c.next_suffix
  | case4 c => exact List.suffix_refl c.rest
  | case5 c => exact List.suffix_refl c.rest

theorem readLines_suffix (folded : Bool) (chomping : Chomping) (indent : Nat) (breaks : List Char) (c : Cursor)
    (fuel : Nat) : (readLines folded chomping indent breaks c fuel).2.rest <:+ c.rest := by
  have hline (c : Cursor) (n m : Nat) : (innerBreaks indent (c.forward n).next m).2.rest <:+ c.rest :=
    ((innerBreaks_suffix _ _ _).trans (Cursor.next_suffix _)).trans (c.forward_suffix n)
  fun_induction readLines folded chomping indent breaks c fuel with
  | case1 breaks c => exact List.suffix_refl c.rest
  | case2 breaks c fuel line start lineEnd after next hnext _ joint more last hlast ih =>
    rw [hlast] at ih
    have hafter := hline c line.length start.rest.length
    rw [hnext] at hafter
    exact ih.trans hafter
  | case3 breaks c fuel line start lineEnd after next hnext =>
    have hafter := hline c line.length start.rest.length
    rw [hnext] at hafter
    exact hafter

theorem readHeader_malformed (cs : List Char) : (∃ found, readHeader cs = .ok found) ∨ readHeader cs = .error .malformed := by
  unfold readHeader
  dsimp only
  split_ifs
  · exact .inr rfl
  · exact .inl ⟨_, rfl⟩

theorem readBlock_grounded (folded : Bool) (indent : Int) (c : Cursor) :
    Grounded Ground (fun found => found.2.rest) c.rest (readBlock folded indent c) := by
  unfold readBlock
  rcases readHeader_malformed c.rest with ⟨⟨header, rest⟩, hheader⟩ | hbad
  · rw [hheader]
    simp only [bind, Except.bind]
    split
    · next start hend =>
      have hstart : start.rest <:+ c.rest := (Cursor.endLine?_suffix hend).trans (c.forward_suffix _)
      obtain ⟨chomping, increment⟩ := header
      cases increment with
      | none =>
        dsimp only
        have hlead := (leadingBreaks_suffix 0 start start.rest.length).trans hstart
        split_ifs
        · exact (readLines_suffix _ _ _ _ _ _).trans hlead
        all_goals exact hlead
      | some n =>
        dsimp only
        have hlead := (innerBreaks_suffix (max 1 (indent + 1).toNat + n - 1) start start.rest.length).trans hstart
        split_ifs
        · exact (readLines_suffix _ _ _ _ _ _).trans hlead
        all_goals exact hlead
    · exact grounded_malformed c.rest
  · rw [hbad]
    exact grounded_malformed c.rest

end Scalars

/-! ### The scanner -/

namespace Scanner

variable {α : Type} {s : Scanner} {r : Result} {c : Char} {rest : List Char}

/-- The scanner stays where it is, or the grammar is broken. -/
def Stays (s : Scanner) (r : Result) : Prop := r = .error .malformed ∨ ∃ next, r = .ok next ∧ next.cursor = s.cursor

theorem Stays.bind {f : Scanner → Except Failure α} {left : α → List Char} (h : Stays s r)
    (hf : ∀ next, next.cursor = s.cursor → Grounded Ground left s.cursor.rest (f next)) :
    Grounded Ground left s.cursor.rest (r >>= f) := by
  rcases h with rfl | ⟨next, rfl, hcursor⟩
  · exact grounded_malformed _
  · exact hf next hcursor

theorem dropStale_stays (s : Scanner) : Stays s s.dropStale := by
  unfold dropStale
  split_ifs
  · exact .inl rfl
  · exact .inr ⟨_, rfl, rfl⟩

theorem dropKey_stays (s : Scanner) : Stays s s.dropKey := by
  unfold dropKey
  split
  · exact .inr ⟨s, rfl, rfl⟩
  · split_ifs
    · exact .inl rfl
    · exact .inr ⟨_, rfl, rfl⟩

theorem saveKey_stays (s : Scanner) : Stays s s.saveKey := by
  unfold saveKey
  split_ifs
  · exact .inr ⟨s, rfl, rfl⟩
  · rcases s.dropKey_stays with hbad | ⟨next, hnext, hcursor⟩
    · rw [hbad]
      exact .inl rfl
    · rw [hnext]
      exact .inr ⟨_, rfl, hcursor⟩

theorem closeBlocks_cursor (column : Int) (s : Scanner) (outer : List Int) :
    (closeBlocks column s outer).cursor = s.cursor := by
  fun_induction closeBlocks column s outer with
  | case1 => rfl
  | case2 s i outer _ ih => exact ih
  | case3 => rfl

theorem unwind_cursor (s : Scanner) (column : Int) : (s.unwind column).cursor = s.cursor := by
  unfold unwind
  split_ifs
  · rfl
  · exact closeBlocks_cursor column s s.outer

/-- A block may be opened in front of a token. -/
theorem openBlock_cursor (s : Scanner) (column position : Nat) (t : Token) :
    (if s.inFlow then s else s.openBlock column position t).cursor = s.cursor := by
  unfold openBlock
  split_ifs
  all_goals rfl

theorem skipToToken_suffix (s : Scanner) (fuel : Nat) : (s.skipToToken fuel).cursor.rest <:+ s.cursor.rest := by
  fun_induction skipToToken s fuel with
  | case1 s => exact List.suffix_refl s.cursor.rest
  | case2 s fuel _ _ _ ih => exact ih.trans s.cursor.next_suffix
  | case3 s fuel _ _ ih => exact ih.trans (s.cursor.forward_suffix _)
  | case4 s fuel _ _ _ _ _ ih => exact ih.trans s.cursor.next_suffix
  | case5 s => exact List.suffix_refl s.cursor.rest
  | case6 s => exact List.suffix_refl s.cursor.rest

/-! ### Tokens -/

/-- A step of the scanner. -/
abbrev Sound (cs : List Char) (r : Result) : Prop := Grounded Ground (fun s => s.cursor.rest) cs r

theorem emitNext_suffix {next : Scanner} (h : next.cursor = s.cursor) (t : Token) :
    (next.emitNext t).cursor.rest <:+ s.cursor.rest := h ▸ next.cursor.next_suffix

theorem readLineToken_sound (s : Scanner) (t : Token) {after : Cursor} (hafter : after.rest <:+ s.cursor.rest) :
    Sound s.cursor.rest (s.readLineToken t after) := by
  rw [← s.unwind_cursor (-1)] at hafter ⊢
  exact (dropKey_stays _).bind fun next _ => hafter

theorem openFlow_sound (s : Scanner) (t : Token) : Sound s.cursor.rest (s.openFlow t) :=
  s.saveKey_stays.bind fun _ hcursor => emitNext_suffix hcursor t

theorem closeFlow_sound (s : Scanner) (t : Token) : Sound s.cursor.rest (s.closeFlow t) := by
  unfold closeFlow
  split_ifs
  · exact grounded_malformed _
  · exact s.dropKey_stays.bind fun _ hcursor => emitNext_suffix hcursor t

theorem readFlowEntry_sound (s : Scanner) : Sound s.cursor.rest s.readFlowEntry :=
  (s.allowKey true).dropKey_stays.bind fun _ hcursor => emitNext_suffix hcursor _

/-- The entry of a sequence, a key and a value are marked in one way, where a block may open. -/
theorem mark_sound (s : Scanner) (column position : Nat) (block t : Token) (allowed : Bool) :
    Sound s.cursor.rest ((((if s.inFlow then s else s.openBlock column position block).allowKey allowed).dropKey) >>=
      fun next => .ok (next.emitNext t)) := by
  rw [← s.openBlock_cursor column position block]
  exact (dropKey_stays (allowKey _ allowed)).bind fun _ hcursor => emitNext_suffix hcursor t

theorem readBlockEntry_sound (s : Scanner) : Sound s.cursor.rest s.readBlockEntry := by
  unfold readBlockEntry
  by_cases hmisplaced : (!s.inFlow && !s.keyAllowed) = true
  · rw [if_pos hmisplaced]
    exact grounded_malformed _
  · rw [if_neg hmisplaced]
    exact s.mark_sound _ _ _ _ _

theorem readKey_sound (s : Scanner) : Sound s.cursor.rest s.readKey := by
  unfold readKey
  by_cases hmisplaced : (!s.inFlow && !s.keyAllowed) = true
  · rw [if_pos hmisplaced]
    exact grounded_malformed _
  · rw [if_neg hmisplaced]
    exact s.mark_sound _ _ _ _ _

theorem readValue_sound (s : Scanner) : Sound s.cursor.rest s.readValue := by
  unfold readValue
  split
  · next k _ =>
    refine (Cursor.next_suffix _).trans ?_
    rw [allowKey, openBlock_cursor]
    exact List.suffix_refl s.cursor.rest
  · by_cases hmisplaced : (!s.inFlow && !s.keyAllowed) = true
    · rw [if_pos hmisplaced]
      exact grounded_malformed _
    · rw [if_neg hmisplaced]
      exact s.mark_sound _ _ _ _ _

theorem readAfterMark_sound {read : List Char → Except Failure (Token × List Char)} (hs : s.cursor.rest = c :: rest)
    (hread : Yaml.Sound (c :: rest) (read rest)) : Sound s.cursor.rest (s.readAfterMark read) := by
  refine s.saveKey_stays.bind fun next hcursor => ?_
  rw [hcursor, hs, List.drop_one, List.tail_cons]
  cases hresult : read rest with
  | ok found =>
    have hmoved : (s.cursor.moveTo found.2).rest <:+ c :: rest := by
      rw [← hs]
      exact s.cursor.forward_suffix _
    exact hmoved
  | error e =>
    rw [hresult] at hread
    exact hread

theorem readBlockScalar_sound (s : Scanner) (folded : Bool) : Sound s.cursor.rest (s.readBlockScalar folded) := by
  refine (s.allowKey true).dropKey_stays.bind fun next hcursor => ?_
  have hblock := (readBlock_grounded folded next.indent next.cursor.next).mono next.cursor.next_suffix
  rw [hcursor] at hblock ⊢
  exact Grounded.bind hblock fun found => List.suffix_refl found.2.rest

theorem readPlainScalar_sound (s : Scanner) : Sound s.cursor.rest s.readPlainScalar := by
  refine s.saveKey_stays.bind fun next hcursor => ?_
  have hplain := readPlainFrom_suffix next.inFlow (next.indent + 1) [] false next.cursor (next.cursor.rest.length + 1)
  rw [← hcursor]
  exact hplain

/-- The next token is read, or there is a ground why not. -/
theorem readToken_sound (hs : s.cursor.rest = c :: rest) : Sound s.cursor.rest (s.readToken c rest) := by
  have hquoted (double : Bool) : Yaml.Sound (c :: rest)
      ((readQuoted double rest).map fun found => (Token.scalar found.1 false, found.2)) :=
    ((readQuoted_sound double rest).mono (List.suffix_cons c rest)).map fun _ => rfl
  have hname (t : String → Token) : Yaml.Sound (c :: rest) ((readName rest).map fun found => (t found.1, found.2)) :=
    ((readName_sound rest).mono (List.suffix_cons c rest)).map fun _ => rfl
  unfold readToken
  by_cases hdirective : (c == '%' && s.cursor.column == 0) = true
  · simp only [hdirective, if_true]
    have hpercent : c = '%' := by simp_all
    subst hpercent
    rw [hs]
    have hread := readDirective_sound rest
    cases hresult : readDirective rest with
    | ok found =>
      simp only [bind, Except.bind]
      split
      · next after hend =>
        rw [← hs]
        exact readLineToken_sound s _ ((Cursor.endLine?_suffix hend).trans (s.cursor.forward_suffix _))
      · exact grounded_malformed _
    | error e =>
      rw [hresult] at hread
      exact hread
  · simp only [hdirective, Bool.false_eq_true, if_false]
    by_cases hseparator : (s.cursor.column == 0 && atSeparator (c :: rest)) = true
    · simp only [hseparator, if_true]
      exact readLineToken_sound s _ (s.cursor.forward_suffix 3)
    · simp only [hseparator, Bool.false_eq_true, if_false]
      split
      · exact s.openFlow_sound _
      · exact s.openFlow_sound _
      · exact s.closeFlow_sound _
      · exact s.closeFlow_sound _
      · exact s.readFlowEntry_sound
      · exact readAfterMark_sound hs (hname .alias)
      · exact readAfterMark_sound hs (hname .anchor)
      · exact readAfterMark_sound hs (readTag_sound rest)
      · exact readAfterMark_sound hs (hquoted false)
      · exact readAfterMark_sound hs (hquoted true)
      · split_ifs
        · exact s.readBlockEntry_sound
        · exact s.readKey_sound
        · exact s.readValue_sound
        · exact s.readBlockScalar_sound false
        · exact s.readBlockScalar_sound true
        · exact s.readPlainScalar_sound
        · exact grounded_malformed _

theorem step_grounded (s : Scanner) :
    Grounded Ground (fun found => found.1.cursor.rest) s.cursor.rest s.step := by
  have hskip := s.skipToToken_suffix (s.cursor.rest.length + 1)
  refine ((dropStale_stays _).bind fun next hcursor => ?_).mono hskip
  have hunwound : (next.unwind next.cursor.column).cursor = _ := (next.unwind_cursor _).trans hcursor
  rw [← hunwound]
  dsimp only
  split
  · have hend := (next.unwind next.cursor.column).unwind_cursor (-1)
    rw [← hend]
    exact (dropKey_stays _).bind fun last hlast => hlast ▸ List.suffix_refl last.cursor.rest
  · next c rest hrest => exact Grounded.bind (readToken_sound hrest) fun s => List.suffix_refl s.cursor.rest

end Scanner

/-- Where the tokens stop there is a ground in the text. -/
theorem Stream.scanFrom_stop (s : Scanner) (fuel : Nat) :
    ∃ part, part <:+ s.cursor.rest ∧ Ground part (scanFrom s fuel).stop := by
  induction fuel generalizing s with
  | zero => exact ⟨_, List.suffix_refl _, .malformed⟩
  | succ fuel ih =>
    have hstep := s.step_grounded
    rw [scanFrom]
    rcases hs : s.step with e | ⟨next, last⟩
    · rw [hs] at hstep
      exact hstep
    · rw [hs] at hstep
      cases last with
      | true => exact ⟨_, List.suffix_refl _, .malformed⟩
      | false =>
        obtain ⟨part, hpart, hground⟩ := ih next
        exact ⟨part, hpart.trans hstep, hground⟩

theorem Stream.scan_stop (cs : List Char) : ∃ part, part <:+ cs ∧ Ground part (scan cs).stop := by
  unfold scan
  split_ifs
  · exact scanFrom_stop { cursor := { rest := cs } } _
  · exact ⟨cs, List.suffix_refl cs, .malformed⟩

end ShapeTables.Yaml
