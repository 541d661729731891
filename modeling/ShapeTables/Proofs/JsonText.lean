import Mathlib.Data.List.Basic
import ShapeTables.Json.Printer
import ShapeTables.Json.Reader
import ShapeTables.Value.Writable

/-! Texts of values are read back. What the printer writes for a string, a number, a word, a list or a map is taken
off the front of a text by the reader of such things, whatever comes after it, so the reader finds in the text of a
value that value and nothing else. Doubles are left out: they are written with the fewest digits that tell them
apart. -/
namespace ShapeTables.Json

open Text

/-! ### Strings -/

section Strings

theorem valid_toNat (c : Char) : c.toNat < 0xD800 ∨ 0xDFFF < c.toNat ∧ c.toNat < 0x110000 := c.valid

variable {start rest after : List Char} {units : List Nat}

/-- The code units of a character. -/
def unitsOf (c : Char) : List Nat :=
  if c.toNat < 0x10000 then [c.toNat]
  else [0xD800 + (c.toNat - 0x10000) / 0x400, 0xDC00 + (c.toNat - 0x10000) % 0x400]

theorem digitValue?_hexDigit {d : Nat} (h : d < 16) : digitValue? (hexDigit d) = some d := by
  have hall : ∀ d < 16, digitValue? (hexDigit d) = some d := by decide
  exact hall d h

/-- An escape is read as the unit it is written for. At least the closing quote has to come after it. -/
theorem readUnits_unitEscape {unit : Nat} (hunit : unit < 0x10000) (hne : rest ≠ [])
    (hrest : readUnits start rest = .ok (units, after)) :
    readUnits start (unitEscape unit ++ rest) = .ok (unit :: units, after) := by
  obtain ⟨c, rest, rfl⟩ := List.exists_cons_of_ne_nil hne
  have hdigits : number 16 [hexDigit (unit / 4096 % 16), hexDigit (unit / 256 % 16), hexDigit (unit / 16 % 16),
      hexDigit (unit % 16)] = unit := by
    simp only [number, List.foldl_cons, List.foldl_nil, digitValue?_hexDigit (Nat.mod_lt _ (by decide : 0 < 16)),
      Option.getD_some]
    omega
  have hexadecimal : ∀ n, isHexadecimal (hexDigit (n % 16)) := fun n => by
    simp [isHexadecimal, digitValue?_hexDigit (Nat.mod_lt n (by decide : 0 < 16))]
  simp only [unitEscape, List.cons_append, List.nil_append, readUnits]
  rw [if_pos (by simp [hexadecimal]), hdigits, hrest]
  rfl

theorem readUnits_escape {c : Char} {unit : Nat} (hc : c ≠ 'u') (hunit : escapedUnit? c = some unit)
    (hrest : readUnits start rest = .ok (units, after)) :
    readUnits start ('\\' :: c :: rest) = .ok (unit :: units, after) := by
  rw [readUnits]
  · rw [hunit, hrest]
    rfl
  · simpa using hc

theorem readUnits_plain {c : Char} (hescape : c ≠ '\\') (hquote : c ≠ '\"') (hcontrol : 0x20 ≤ c.toNat)
    (hrest : readUnits start rest = .ok (units, after)) :
    readUnits start (c :: rest) = .ok (c.toNat :: units, after) := by
  rw [readUnits]
  · rw [if_neg hquote, if_neg (by omega), hrest]
    rfl
  all_goals simp [hescape]

/-- However a character is written, its code units are read from it. -/
theorem readUnits_encodeChar (c : Char) (hne : rest ≠ []) (hrest : readUnits start rest = .ok (units, after)) :
    readUnits start (encodeChar c ++ rest) = .ok (unitsOf c ++ units, after) := by
  have hsmall : c.toNat < 0x10000 → unitsOf c = [c.toNat] := fun h => if_pos h
  unfold encodeChar
  split_ifs with hquote hescape hplain hnewline hreturn htab hfeed hbackspace hunit
  · subst hquote
    exact readUnits_escape (by decide) rfl hrest
  · subst hescape
    exact readUnits_escape (by decide) rfl hrest
  · rw [hsmall (by omega)]
    exact readUnits_plain hescape hquote hplain.1 hrest
  · subst hnewline
    exact readUnits_escape (by decide) rfl hrest
  · subst hreturn
    exact readUnits_escape (by decide) rfl hrest
  · subst htab
    exact readUnits_escape (by decide) rfl hrest
  · rw [hsmall (by omega), hfeed]
    exact readUnits_escape (by decide) rfl hrest
  · rw [hsmall (by omega), hbackspace]
    exact readUnits_escape (by decide) rfl hrest
  · rw [hsmall hunit]
    exact readUnits_unitEscape hunit hne hrest
  · have hc := valid_toNat c
    rw [unitsOf, if_neg hunit, List.append_assoc]
    exact readUnits_unitEscape (by omega) (by simp [unitEscape]) (readUnits_unitEscape (by omega) hne hrest)

theorem readUnits_flatMap_encodeChar (cs rest : List Char) :
    readUnits start (cs.flatMap encodeChar ++ '\"' :: rest) = .ok (cs.flatMap unitsOf, rest) := by
  induction cs with
  | nil => simp [readUnits]
  | cons c cs ih =>
    rw [List.flatMap_cons, List.flatMap_cons, List.append_assoc]
    exact readUnits_encodeChar c (by simp) ih

theorem charOrReplacement_toNat (c : Char) : charOrReplacement c.toNat = c := by
  have hvalid : c.toNat.isValidChar := c.valid
  rw [charOrReplacement, dif_pos hvalid]
  rfl

theorem joinSurrogates_cons {unit : Nat} (h : isHighSurrogate unit = false) (rest : List Nat) :
    joinSurrogates (unit :: rest) = charOrReplacement unit :: joinSurrogates rest := by
  cases rest with
  | nil => rfl
  | cons low rest => simp [joinSurrogates, surrogatePair?, h]

/-- The units of characters are joined to these again, since no character is a surrogate. -/
theorem joinSurrogates_flatMap_unitsOf (cs : List Char) : joinSurrogates (cs.flatMap unitsOf) = cs := by
  induction cs with
  | nil => rfl
  | cons c cs ih =>
    have hvalid := valid_toNat c
    rw [List.flatMap_cons, unitsOf]
    split_ifs with hunit
    · have hsurrogate : isHighSurrogate c.toNat = false := by
        simp only [isHighSurrogate, Bool.and_eq_false_iff, decide_eq_false_iff_not]
        omega
      rw [List.singleton_append, joinSurrogates_cons hsurrogate, ih, charOrReplacement_toNat]
    · have hpair : surrogatePair? (0xD800 + (c.toNat - 0x10000) / 0x400) (0xDC00 + (c.toNat - 0x10000) % 0x400) =
          some c.toNat := by
        simp only [surrogatePair?, isHighSurrogate, isLowSurrogate, Bool.and_eq_true, decide_eq_true_eq]
        rw [if_pos (by omega)]
        exact congrArg some (by omega)
      rw [List.cons_append, List.singleton_append, joinSurrogates, hpair, ih]
      exact congrArg (· :: cs) (charOrReplacement_toNat c)

/-- A string is read up to its closing quote. -/
theorem readString_encodeString (s : String) (start rest : List Char) :
    readString start (s.toList.flatMap encodeChar ++ '\"' :: rest) = .ok (s, rest) := by
  have hjoined : String.ofList (joinSurrogates (s.toList.flatMap unitsOf)) = s := by
    rw [joinSurrogates_flatMap_unitsOf, String.ofList_toList]
  rw [readString, readUnits_flatMap_encodeChar]
  exact congrArg (fun text => Except.ok (text, rest)) hjoined

end Strings

/-! ### Numbers and words -/

section Atoms

/-- What may come after a value: a comma, or the end of a line. -/
def Ends (rest : List Char) : Prop := ∃ c cs, rest = c :: cs ∧ (c = ',' ∨ c = '\n')

theorem ends_lineStart (level : Nat) (rest : List Char) : Ends (lineStart level ++ rest) :=
  ⟨'\n', List.replicate (2 * level) ' ' ++ rest, rfl, .inr rfl⟩

variable {rest : List Char}

theorem isDecimal_of_mem_toDigits {n : Nat} {c : Char} (h : c ∈ Nat.toDigits 10 n) : isDecimal c :=
  Nat.isDigit_of_mem_toDigits (by decide) (by decide) h

theorem digitValue?_of_isDecimal {c : Char} (h : isDecimal c) : digitValue? c = some (c.toNat - '0'.toNat) := by
  simp only [isDecimal, Bool.and_eq_true, decide_eq_true_eq] at h
  exact if_pos h

/-- The digits of a number are read as that number. -/
theorem number_toDigits (n : Nat) : number 10 (Nat.toDigits 10 n) = n := by
  have hdigits : ∀ cs : List Char, (∀ c ∈ cs, isDecimal c) → ∀ m,
      cs.foldl (fun n c => n * 10 + (digitValue? c).getD 0) m = Nat.ofDigitChars 10 cs m := by
    intro cs
    induction cs with
    | nil => simp
    | cons c cs ih =>
      intro h m
      obtain ⟨hc, hcs⟩ := List.forall_mem_cons.mp h
      rw [List.foldl_cons, digitValue?_of_isDecimal hc, ih hcs, Nat.ofDigitChars_cons, Nat.mul_comm]
      rfl
  rw [number, hdigits _ fun c => isDecimal_of_mem_toDigits, Nat.ofDigitChars_ten_toDigits]

/-- The first digit of a number that is not zero is not zero. -/
theorem exists_toDigits_eq_cons {n : Nat} (hn : 0 < n) : ∃ c cs, Nat.toDigits 10 n = c :: cs ∧ c ≠ '0' := by
  induction n using Nat.strongRecOn with
  | ind n ih =>
    rw [Nat.toDigits_eq_if (by decide)]
    split_ifs with hlt
    · exact ⟨_, [], rfl, by simpa using Nat.ne_of_gt hn⟩
    · obtain ⟨c, cs, hcs, hc⟩ := ih (n / 10) (by omega) (by omega)
      exact ⟨c, _, by rw [hcs, List.cons_append], hc⟩

theorem Ends.span_digits (h : Ends rest) {digits : List Char} (hdigits : ∀ c ∈ digits, isDecimal c) :
    (digits ++ rest).takeWhile isDecimal = digits ∧ (digits ++ rest).dropWhile isDecimal = rest := by
  obtain ⟨c, cs, rfl, hc⟩ := h
  have hstop : isDecimal c = false := by rcases hc with rfl | rfl <;> decide
  rw [List.takeWhile_append_of_pos hdigits, List.dropWhile_append_of_pos hdigits]
  simp [hstop]

/-- The digits of a number are taken up to what comes after it. -/
theorem Ends.whole?_toDigits (h : Ends rest) (n : Nat) :
    whole? (Nat.toDigits 10 n ++ rest) = some (Nat.toDigits 10 n, rest) := by
  rcases Nat.eq_zero_or_pos n with rfl | hpos
  · rw [Nat.toDigits_zero]
    rfl
  · obtain ⟨c, cs, hcs, hc⟩ := exists_toDigits_eq_cons hpos
    obtain ⟨htake, hdrop⟩ := h.span_digits fun c (hc : c ∈ Nat.toDigits 10 n) => isDecimal_of_mem_toDigits hc
    rw [hcs, List.cons_append] at htake hdrop ⊢
    rw [whole?]
    · rw [htake, hdrop]
      rfl
    · simpa using hc

theorem Ends.fraction?_eq_none (h : Ends rest) : fraction? rest = none := by
  obtain ⟨c, cs, rfl, rfl | rfl⟩ := h <;> rfl

theorem Ends.power?_eq_none (h : Ends rest) : power? rest = none := by
  obtain ⟨c, cs, rfl, rfl | rfl⟩ := h <;> rfl

/-- A number with few enough digits is read from these. -/
theorem Ends.readNumber_toDigits (h : Ends rest) {n : Nat} (hn : (Nat.toDigits 10 n).length ≤ maxDigits)
    (negative : Bool) (start : List Char) : readNumber negative start (Nat.toDigits 10 n ++ rest) =
      .ok (.int (if negative then -(n : Int) else n), rest) := by
  rw [readNumber, h.whole?_toDigits]
  simp only [h.fraction?_eq_none, h.power?_eq_none, Bool.or_false, Bool.false_eq_true, if_false]
  rw [if_neg (by omega), number_toDigits]

/-- A text is no word if no word is at the front of it. -/
theorem findWord_eq_none {cs : List Char} (h : ∀ w ∈ words, ¬w.1.toList <+: cs) :
    (words.findSome? fun (word, v) => (after? word.toList cs).map (v, ·)) = none := by
  rw [List.findSome?_eq_none_iff]
  intro w hw
  have hprefix : w.1.toList.isPrefixOf cs = false := by
    rw [← Bool.not_eq_true, List.isPrefixOf_iff_prefix]
    exact h w hw
  simp [after?, hprefix]

/-- No word begins with a digit, and none goes on with one after a minus sign. -/
theorem no_word_numeral {w : String × Value} (hw : w ∈ words) {c : Char} (hc : isDecimal c) (cs : List Char) :
    ¬w.1.toList <+: c :: cs ∧ ¬w.1.toList <+: '-' :: c :: cs := by
  have hne : 'n' ≠ c ∧ 't' ≠ c ∧ 'f' ≠ c ∧ 'N' ≠ c ∧ 'I' ≠ c ∧ '-' ≠ c := by
    refine ⟨?_, ?_, ?_, ?_, ?_, ?_⟩ <;> rintro rfl <;> cases hc
  simp only [words, List.mem_cons, List.not_mem_nil, or_false] at hw
  rcases hw with rfl | rfl | rfl | rfl | rfl | rfl <;> simp [List.cons_prefix_cons, hne]

theorem Ends.readAtom_toDigits (h : Ends rest) {n : Nat} (hn : (Nat.toDigits 10 n).length ≤ maxDigits) :
    readAtom (Nat.toDigits 10 n ++ rest) = .ok (.int n, rest) := by
  have hnumber := h.readNumber_toDigits hn false (Nat.toDigits 10 n ++ rest)
  obtain ⟨c, cs, hcs⟩ := List.exists_cons_of_ne_nil (Nat.toDigits_ne_nil : Nat.toDigits 10 n ≠ [])
  have hc : isDecimal c := isDecimal_of_mem_toDigits (by rw [hcs]; exact List.mem_cons_self)
  rw [hcs, List.cons_append] at hnumber ⊢
  rw [readAtom, findWord_eq_none fun w hw => (no_word_numeral hw hc _).1]
  · exact hnumber
  · rintro _ ⟨⟩
    cases hc

theorem Ends.readAtom_minus (h : Ends rest) {n : Nat} (hn : (Nat.toDigits 10 n).length ≤ maxDigits) :
    readAtom ('-' :: Nat.toDigits 10 n ++ rest) = .ok (.int (-n), rest) := by
  have hnumber := h.readNumber_toDigits hn true ('-' :: Nat.toDigits 10 n ++ rest)
  obtain ⟨c, cs, hcs⟩ := List.exists_cons_of_ne_nil (Nat.toDigits_ne_nil : Nat.toDigits 10 n ≠ [])
  have hc : isDecimal c := isDecimal_of_mem_toDigits (by rw [hcs]; exact List.mem_cons_self)
  rw [hcs, List.cons_append, List.cons_append] at hnumber ⊢
  rw [readAtom, findWord_eq_none fun w hw => (no_word_numeral hw hc _).2]
  exact hnumber

theorem length_toDigits_le {n k : Nat} (hk : 0 < k) (h : n < Nat.pow 10 k) : (Nat.toDigits 10 n).length ≤ k :=
  (Nat.length_toDigits_le_iff (by decide) hk).mpr h

theorem toList_toString_ofNat (m : Nat) : (toString (Int.ofNat m)).toList = Nat.toDigits 10 m := Nat.toList_repr

theorem toList_toString_negSucc (m : Nat) : (toString (Int.negSucc m)).toList = '-' :: Nat.toDigits 10 (m + 1) := by
  rw [Int.toString_eq_repr, Int.repr, String.toList_append, Nat.toList_repr]
  rfl

theorem exists_toString_eq_cons (n : Int) : ∃ c cs, (toString n).toList = c :: cs ∧ (isDecimal c ∨ c = '-') := by
  cases n with
  | ofNat m =>
    obtain ⟨c, cs, hcs⟩ := List.exists_cons_of_ne_nil (Nat.toDigits_ne_nil : Nat.toDigits 10 m ≠ [])
    exact ⟨c, cs, by rw [toList_toString_ofNat, hcs], .inl (isDecimal_of_mem_toDigits (by rw [hcs]; exact List.mem_cons_self))⟩
  | negSucc m => exact ⟨'-', _, toList_toString_negSucc m, .inr rfl⟩

/-- An integer that can be written is read back. -/
theorem Ends.readAtom_int (h : Ends rest) {n : Int} (hn : isWritable n) :
    readAtom ((toString n).toList ++ rest) = .ok (.int n, rest) := by
  have hlength := length_toDigits_le (by decide) (of_decide_eq_true hn)
  cases n with
  | ofNat m =>
    rw [toList_toString_ofNat]
    exact h.readAtom_toDigits hlength
  | negSucc m =>
    rw [toList_toString_negSucc]
    exact h.readAtom_minus hlength

theorem readAtom_word {w : String × Value} (hw : w ∈ [("null", Value.null), ("true", .bool true), ("false", .bool false)])
    (rest : List Char) : readAtom (w.1.toList ++ rest) = .ok (w.2, rest) := by
  simp only [List.mem_cons, List.not_mem_nil, or_false] at hw
  rcases hw with rfl | rfl | rfl <;> rfl

end Atoms

/-! ### Values -/

section Values

/-- The values that are read back from their texts: those of JSON without doubles, with integers that can be
written. -/
inductive Readable : Value → Prop where
  | null : Readable .null
  | bool (b : Bool) : Readable (.bool b)
  | int {n : Int} (h : isWritable n) : Readable (.int n)
  | text (s : String) : Readable (.text s)
  | list {items : List Value} (h : ∀ v ∈ items, Readable v) : Readable (.list items)
  | object {members : List (String × Value)} (hnames : (members.map Prod.fst).Nodup)
    (h : ∀ m ∈ members, Readable m.2) : Readable (.object members)

theorem putMember_of_notMem {found : List (Scalar × Value)} {key : Scalar} (h : ∀ m ∈ found, m.1 ≠ key) (v : Value) :
    putMember (· == ·) found key v = found ++ [(key, v)] := by
  induction found with
  | nil => rfl
  | cons m found ih =>
    obtain ⟨hm, hfound⟩ := List.forall_mem_cons.mp h
    rw [putMember, if_neg (by simpa using hm), ih hfound, List.cons_append]

/-- Members with different names are collected as they are. -/
theorem collect_of_nodup {members : List (String × Value)} (h : (members.map Prod.fst).Nodup) :
    collect members = .object members := by
  have hcollect : ∀ (members : List (String × Value)) (found : List (Scalar × Value)), (members.map Prod.fst).Nodup →
      (∀ m ∈ members, ∀ k ∈ found, k.1 ≠ .text m.1) →
      members.foldl (fun found (name, v) => putMember (· == ·) found (.text name) v) found =
        found ++ members.map fun (name, v) => (.text name, v) := by
    intro members
    induction members with
    | nil => simp
    | cons m members ih =>
      intro found hnames hfound
      obtain ⟨name, v⟩ := m
      obtain ⟨hm, hrest⟩ := List.forall_mem_cons.mp hfound
      obtain ⟨hnew, hnames⟩ := List.nodup_cons.mp hnames
      have hput : putMember (· == ·) found (.text name) v = found ++ [(.text name, v)] := putMember_of_notMem hm v
      rw [List.foldl_cons]
      simp only [hput]
      rw [ih _ hnames, List.append_assoc]
      · rfl
      · intro m hm k hk heq
        rcases List.mem_append.mp hk with hk | hk
        · exact hrest m hm k hk heq
        · rw [List.mem_singleton.mp hk] at heq
          exact hnew (List.mem_map.mpr ⟨m, hm, (Scalar.text.inj heq).symm⟩)
  rw [collect, hcollect members [] h (by simp)]
  rfl

theorem skipBlanks_lineStart (level : Nat) (rest : List Char) :
    skipBlanks (lineStart level ++ rest) = skipBlanks rest := by
  refine List.dropWhile_append_of_pos fun c hc => ?_
  rcases List.mem_cons.mp hc with rfl | hc
  · rfl
  · rw [List.eq_of_mem_replicate hc]
    rfl

theorem skipBlanks_cons {c : Char} (hc : isBlank c = false) (cs : List Char) : skipBlanks (c :: cs) = c :: cs :=
  List.dropWhile_cons_of_neg (by simp [hc])

/-- The characters that no text of a value begins with: blanks, a closing bracket and the mark of byte order. -/
def nonStarts : List Char := [' ', '\t', '\n', '\r', ']', Char.ofNat 0xFEFF]

/-- The text of a value, at whatever level, is read as the value, up to what comes after it. Each step that the reader
goes down takes up at least one of its characters. -/
structure ReadsBack (v : Value) : Prop where
  head : ∀ level, ∃ c cs, write level v = c :: cs ∧ c ∉ nonStarts
  read : ∀ {level depth : Nat} {rest : List Char}, Ends rest → (write level v).length ≤ depth →
    readValue depth (write level v ++ rest) = .ok (v, rest)

theorem isBlank_of_notMem {c : Char} (h : c ∉ nonStarts) : isBlank c = false := by
  simp only [nonStarts, List.mem_cons, List.not_mem_nil, or_false, not_or] at h
  simp [isBlank, h]

theorem ReadsBack.skipBlanks {v : Value} (h : ReadsBack v) (level : Nat) (rest : List Char) :
    skipBlanks (write level v ++ rest) = write level v ++ rest := by
  obtain ⟨c, cs, hcs, hc⟩ := h.head level
  rw [hcs, List.cons_append, skipBlanks_cons (isBlank_of_notMem hc)]

/-- What is neither a string nor a map nor a list is read as a word or a number. -/
theorem readsBack_of_atom {s : Scalar} {c : Char} {cs : List Char} (hwrite : writeScalar s = c :: cs)
    (hstart : c ∉ nonStarts) (hc : c ∉ ['\"', '{', '['])
    (hread : ∀ rest, Ends rest → readAtom (writeScalar s ++ rest) = .ok (.scalar s, rest)) : ReadsBack (.scalar s) := by
  simp only [List.mem_cons, List.not_mem_nil, or_false, not_or] at hc
  constructor
  · exact fun level => ⟨c, cs, by rw [write, hwrite], hstart⟩
  · intro level depth rest hrest hdepth
    rw [write, hwrite] at hdepth
    obtain ⟨depth, rfl⟩ := Nat.exists_eq_add_of_lt (Nat.lt_of_lt_of_le (Nat.succ_pos cs.length) hdepth)
    rw [write, ← hread rest hrest, hwrite, List.cons_append, Nat.zero_add, readValue]
    all_goals simp [hc]

theorem readsBack_null : ReadsBack .null :=
  readsBack_of_atom rfl (by decide) (by decide) fun rest _ => readAtom_word (w := ("null", .null)) (by simp) rest

theorem readsBack_bool (b : Bool) : ReadsBack (.bool b) := by
  cases b
  · exact readsBack_of_atom rfl (by decide) (by decide) fun rest _ => readAtom_word (w := ("false", .bool false)) (by simp) rest
  · exact readsBack_of_atom rfl (by decide) (by decide) fun rest _ => readAtom_word (w := ("true", .bool true)) (by simp) rest

theorem readsBack_int {n : Int} (h : isWritable n) : ReadsBack (.int n) := by
  obtain ⟨c, cs, hcs, hc⟩ := exists_toString_eq_cons n
  have hother : (['\"', '{', '['] ++ nonStarts).all fun d => !isDecimal d && d != '-' := rfl
  have hne : c ∉ ['\"', '{', '['] ++ nonStarts := by
    intro hmem
    have hboth := List.all_eq_true.mp hother c hmem
    rcases hc with hc | rfl
    · simp [hc] at hboth
    · cases hboth
  rw [List.mem_append, not_or] at hne
  exact readsBack_of_atom hcs hne.2 hne.1 fun rest hrest => hrest.readAtom_int h

theorem readsBack_text (s : String) : ReadsBack (.text s) := by
  constructor
  · exact fun level => ⟨'\"', _, rfl, by decide⟩
  · intro level depth rest hrest hdepth
    obtain ⟨depth, rfl⟩ := Nat.exists_eq_add_of_lt (Nat.lt_of_lt_of_le (Nat.succ_pos _) hdepth)
    have htext : write level (.text s) ++ rest = '\"' :: (s.toList.flatMap encodeChar ++ '\"' :: rest) := by
      simp [write, writeScalar, encodeString]
    rw [htext, Nat.zero_add, readValue, readString_encodeString]
    rfl

/-! ### Lists and maps -/

section Rules

variable {depth : Nat} {cs after rest tail : List Char} {v : Value} {name : String}

theorem readItems_last (hv : readValue depth cs = .ok (v, after)) (hafter : Json.skipBlanks after = ']' :: rest) :
    readItems (depth + 1) cs = .ok ([v], rest) := by
  simp only [readItems, hv, bind, Except.bind, hafter]
  rfl

theorem readItems_more {items : List Value} (hv : readValue depth cs = .ok (v, after))
    (hafter : Json.skipBlanks after = ',' :: rest) (hitems : readItems depth (Json.skipBlanks rest) = .ok (items, tail)) :
    readItems (depth + 1) cs = .ok (v :: items, tail) := by
  simp only [readItems, hv, bind, Except.bind, hafter, hitems]
  rfl

/-- A member is a name in quotes, a colon and a value. -/
theorem readMembers_succ (hv : readValue depth cs = .ok (v, after)) (hcs : Json.skipBlanks cs = cs) :
    readMembers (depth + 1) (encodeString name ++ ':' :: ' ' :: cs) = match Json.skipBlanks after with
      | '}' :: rest => .ok ([(name, v)], rest)
      | ',' :: rest => do
        let (members, rest) ← readMembers depth (Json.skipBlanks rest)
        return ((name, v) :: members, rest)
      | rest => .error (.malformed .expectingComma rest) := by
  have hname : encodeString name ++ ':' :: ' ' :: cs =
      '\"' :: (name.toList.flatMap encodeChar ++ '\"' :: ':' :: ' ' :: cs) := by simp [encodeString]
  have hspace : Json.skipBlanks (' ' :: cs) = cs := hcs
  rw [hname]
  simp only [readMembers, readString_encodeString, bind, Except.bind]
  rw [skipBlanks_cons rfl]
  simp only [hspace, hv]
  rfl

theorem readMembers_last (hv : readValue depth cs = .ok (v, after)) (hcs : Json.skipBlanks cs = cs)
    (hafter : Json.skipBlanks after = '}' :: rest) :
    readMembers (depth + 1) (encodeString name ++ ':' :: ' ' :: cs) = .ok ([(name, v)], rest) := by
  simp only [readMembers_succ hv hcs, hafter]

theorem readMembers_more {members : List (String × Value)} (hv : readValue depth cs = .ok (v, after))
    (hcs : Json.skipBlanks cs = cs) (hafter : Json.skipBlanks after = ',' :: rest)
    (hmembers : readMembers depth (Json.skipBlanks rest) = .ok (members, tail)) :
    readMembers (depth + 1) (encodeString name ++ ':' :: ' ' :: cs) = .ok ((name, v) :: members, tail) := by
  simp only [readMembers_succ hv hcs, hafter, hmembers]
  rfl

theorem readValue_list {c : Char} {items : List Value} (hcs : Json.skipBlanks cs = c :: tail) (hc : c ≠ ']')
    (hitems : readItems depth (c :: tail) = .ok (items, rest)) :
    readValue (depth + 1) ('[' :: cs) = .ok (.list items, rest) := by
  rw [readValue, hcs]
  split
  · next heq => exact absurd (List.cons.inj heq).1 hc
  · simp only [hitems, bind, Except.bind]
    rfl

theorem readValue_map {c : Char} {members : List (String × Value)} (hcs : Json.skipBlanks cs = c :: tail) (hc : c ≠ '}')
    (hmembers : readMembers depth (c :: tail) = .ok (members, rest)) :
    readValue (depth + 1) ('{' :: cs) = .ok (collect members, rest) := by
  rw [readValue, hcs]
  split
  · next heq => exact absurd (List.cons.inj heq).1 hc
  · simp only [hmembers, bind, Except.bind]
    rfl

end Rules

variable {level depth : Nat} {rest : List Char}

theorem ends_writeItems (items : List Value) : Ends (writeItems level items ++ rest) := by
  cases items with
  | nil =>
    rw [writeItems, List.append_assoc]
    exact ends_lineStart level _
  | cons v items => exact ⟨',', _, by rw [writeItems]; rfl, .inl rfl⟩

theorem ends_writeMembers (members : List (Scalar × Value)) : Ends (writeMembers level members ++ rest) := by
  cases members with
  | nil =>
    rw [writeMembers, List.append_assoc]
    exact ends_lineStart level _
  | cons m members => exact ⟨',', _, by rw [writeMembers]; rfl, .inl rfl⟩

/-- The items of a list are read one after another. -/
theorem readItems_write {v : Value} {items : List Value} (hv : ReadsBack v) (hitems : ∀ w ∈ items, ReadsBack w)
    (hdepth : (write (level + 1) v).length + (writeItems level items).length < depth) :
    readItems depth (write (level + 1) v ++ (writeItems level items ++ rest)) = .ok (v :: items, rest) := by
  induction items generalizing v depth with
  | nil =>
    obtain ⟨depth, rfl⟩ := Nat.exists_eq_succ_of_ne_zero (Nat.ne_zero_of_lt hdepth)
    refine readItems_last (hv.read (ends_writeItems []) (by omega)) ?_
    rw [writeItems, List.append_assoc, skipBlanks_lineStart]
    rfl
  | cons w items ih =>
    obtain ⟨depth, rfl⟩ := Nat.exists_eq_succ_of_ne_zero (Nat.ne_zero_of_lt hdepth)
    obtain ⟨hw, hitems⟩ := List.forall_mem_cons.mp hitems
    have hlength : (writeItems level (w :: items)).length = 1 + (lineStart (level + 1)).length +
        (write (level + 1) w).length + (writeItems level items).length := by
      simp only [writeItems, List.length_cons, List.length_append]
      omega
    have hafter : writeItems level (w :: items) ++ rest =
        ',' :: (lineStart (level + 1) ++ (write (level + 1) w ++ (writeItems level items ++ rest))) := by
      simp [writeItems]
    refine readItems_more (hv.read (ends_writeItems _) (by omega)) (by rw [hafter, skipBlanks_cons rfl]) ?_
    rw [skipBlanks_lineStart, hw.skipBlanks]
    exact ih hw hitems (by omega)

/-- Members as they stand in a map. -/
def entries (members : List (String × Value)) : List (Scalar × Value) := members.map fun (name, v) => (.text name, v)

/-- The members of a map are read one after another. -/
theorem readMembers_write {name : String} {v : Value} {members : List (String × Value)} (hv : ReadsBack v)
    (hmembers : ∀ m ∈ members, ReadsBack m.2)
    (hdepth : (write (level + 1) v).length + (writeMembers level (entries members)).length < depth) :
    readMembers depth (encodeString name ++ ':' :: ' ' :: (write (level + 1) v ++
      (writeMembers level (entries members) ++ rest))) = .ok ((name, v) :: members, rest) := by
  induction members generalizing name v depth with
  | nil =>
    obtain ⟨depth, rfl⟩ := Nat.exists_eq_succ_of_ne_zero (Nat.ne_zero_of_lt hdepth)
    refine readMembers_last (hv.read (ends_writeMembers _) (by omega)) (hv.skipBlanks _ _) ?_
    rw [entries, List.map_nil, writeMembers, List.append_assoc, skipBlanks_lineStart]
    rfl
  | cons m members ih =>
    obtain ⟨depth, rfl⟩ := Nat.exists_eq_succ_of_ne_zero (Nat.ne_zero_of_lt hdepth)
    obtain ⟨other, w⟩ := m
    obtain ⟨hw, hmembers⟩ := List.forall_mem_cons.mp hmembers
    have hlength : (writeMembers level (entries ((other, w) :: members))).length = 3 + (lineStart (level + 1)).length +
        (encodeString other).length + (write (level + 1) w).length + (writeMembers level (entries members)).length := by
      simp only [entries, List.map_cons, writeMembers, keyText, List.length_cons, List.length_append]
      omega
    have hafter : writeMembers level (entries ((other, w) :: members)) ++ rest =
        ',' :: (lineStart (level + 1) ++ (encodeString other ++ ':' :: ' ' :: (write (level + 1) w ++
          (writeMembers level (entries members) ++ rest)))) := by
      simp [entries, writeMembers, keyText]
    refine readMembers_more (hv.read (ends_writeMembers _) (by omega)) (hv.skipBlanks _ _)
      (by rw [hafter, skipBlanks_cons rfl]) ?_
    rw [skipBlanks_lineStart]
    exact ih hw hmembers (by omega)

theorem readsBack_list {items : List Value} (h : ∀ v ∈ items, ReadsBack v) : ReadsBack (.list items) := by
  constructor
  · intro level
    cases items <;> exact ⟨'[', _, rfl, by decide⟩
  · intro level depth rest hrest hdepth
    cases items with
    | nil =>
      obtain ⟨depth, rfl⟩ := Nat.exists_eq_succ_of_ne_zero (Nat.ne_zero_of_lt hdepth)
      rfl
    | cons v items =>
      obtain ⟨depth, rfl⟩ := Nat.exists_eq_succ_of_ne_zero (Nat.ne_zero_of_lt hdepth)
      obtain ⟨hv, hitems⟩ := List.forall_mem_cons.mp h
      have htext : write level (.list (v :: items)) ++ rest =
          '[' :: (lineStart (level + 1) ++ (write (level + 1) v ++ (writeItems level items ++ rest))) := by
        simp [write]
      have hlength : (write level (.list (v :: items))).length = 1 + (lineStart (level + 1)).length +
          (write (level + 1) v).length + (writeItems level items).length := by
        simp only [write, List.length_cons, List.length_append]
        omega
      have hline : 0 < (lineStart (level + 1)).length := Nat.succ_pos _
      obtain ⟨c, cs, hcs, hc⟩ := hv.head (level + 1)
      have hread : readItems depth (write (level + 1) v ++ (writeItems level items ++ rest)) = .ok (v :: items, rest) :=
        readItems_write hv hitems (by omega)
      have hskip := hv.skipBlanks (level + 1) (writeItems level items ++ rest)
      rw [hcs, List.cons_append] at hread hskip
      rw [htext]
      refine readValue_list ?_ (by rintro rfl; exact hc (by decide)) hread
      rw [skipBlanks_lineStart, hcs, List.cons_append, hskip]

theorem readsBack_object {members : List (String × Value)} (hnames : (members.map Prod.fst).Nodup)
    (h : ∀ m ∈ members, ReadsBack m.2) : ReadsBack (.object members) := by
  constructor
  · intro level
    cases members <;> exact ⟨'{', _, rfl, by decide⟩
  · intro level depth rest hrest hdepth
    cases members with
    | nil =>
      obtain ⟨depth, rfl⟩ := Nat.exists_eq_succ_of_ne_zero (Nat.ne_zero_of_lt hdepth)
      rfl
    | cons m members =>
      obtain ⟨depth, rfl⟩ := Nat.exists_eq_succ_of_ne_zero (Nat.ne_zero_of_lt hdepth)
      obtain ⟨name, v⟩ := m
      obtain ⟨hv, hmembers⟩ := List.forall_mem_cons.mp h
      have htext : write level (.object ((name, v) :: members)) ++ rest =
          '{' :: (lineStart (level + 1) ++ (encodeString name ++ ':' :: ' ' :: (write (level + 1) v ++
            (writeMembers level (entries members) ++ rest)))) := by
        simp [Value.object, entries, write, keyText]
      have hlength : (write level (.object ((name, v) :: members))).length = 3 + (lineStart (level + 1)).length +
          (encodeString name).length + (write (level + 1) v).length + (writeMembers level (entries members)).length := by
        simp only [Value.object, entries, List.map_cons, write, keyText, List.length_cons, List.length_append]
        omega
      have hread : readMembers depth (encodeString name ++ ':' :: ' ' :: (write (level + 1) v ++
          (writeMembers level (entries members) ++ rest))) = .ok ((name, v) :: members, rest) :=
        readMembers_write hv hmembers (by omega)
      rw [htext, ← collect_of_nodup hnames]
      refine readValue_map ?_ (by decide) hread
      rw [skipBlanks_lineStart]
      rfl

/-- A value that can be read back is. -/
theorem Readable.readsBack {v : Value} (h : Readable v) : ReadsBack v := by
  induction h with
  | null => exact readsBack_null
  | bool b => exact readsBack_bool b
  | int h => exact readsBack_int h
  | text s => exact readsBack_text s
  | list _ ih => exact readsBack_list ih
  | object hnames _ ih => exact readsBack_object hnames ih

end Values

/-- What is printed for a value, with the end of the line, is read as this value. -/
theorem read_render {v : Value} (h : Readable v) : read (render v ++ "\n").toList = .ok v := by
  have htext : (render v ++ "\n").toList = write 0 v ++ ['\n'] := by
    rw [String.toList_append, render, String.toList_ofList]
    rfl
  have hread : readValue (2 * (write 0 v ++ ['\n']).length + 2) (write 0 v ++ ['\n']) = .ok (v, ['\n']) := by
    refine h.readsBack.read ⟨'\n', [], rfl, .inr rfl⟩ ?_
    rw [List.length_append]
    omega
  obtain ⟨c, cs, hcs, hc⟩ := h.readsBack.head 0
  have hmark : (write 0 v ++ ['\n']).head? ≠ some (Char.ofNat 0xFEFF) := by
    rw [hcs]
    rintro heq
    cases Option.some.inj heq
    exact hc (by decide)
  rw [htext, read, if_neg hmark, h.readsBack.skipBlanks, hread]
  rfl

end ShapeTables.Json
