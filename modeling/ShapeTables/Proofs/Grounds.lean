import Mathlib.Data.List.Basic
import ShapeTables.Json.Reader

/-! Grounds of failures. A reader takes characters off the front of a text, so what it leaves is a suffix of the text, and
a failure that is not about the text as a whole has its ground in a suffix as well. A text of JSON that fails on its own
holds an integer of too many digits. -/
namespace ShapeTables

section Grounded

variable {ε α β : Type} {ground : List Char → ε → Prop} {left : α → List Char} {left' : β → List Char}
  {cs after : List Char}

/-- What is left by reading a text is a suffix of it, and a failure has a ground in a suffix of it. -/
def Grounded (ground : List Char → ε → Prop) (left : α → List Char) (cs : List Char) : Except ε α → Prop
  | .ok a => left a <:+ cs
  | .error e => ∃ part, part <:+ cs ∧ ground part e

theorem Grounded.mono {r : Except ε α} (h : Grounded ground left after r) (hafter : after <:+ cs) :
    Grounded ground left cs r := by
  cases r with
  | ok a => exact List.IsSuffix.trans h hafter
  | error e =>
    obtain ⟨part, hpart, hground⟩ := h
    exact ⟨part, hpart.trans hafter, hground⟩

theorem Grounded.of_error {e : ε} (h : ground cs e) : Grounded ground left cs (.error e) :=
  ⟨cs, List.suffix_refl cs, h⟩

/-- What goes on from what is left may fail there. -/
theorem Grounded.bind {r : Except ε α} {f : α → Except ε β} (h : Grounded ground left cs r)
    (hf : ∀ a, Grounded ground left' (left a) (f a)) : Grounded ground left' cs (r >>= f) := by
  cases r with
  | ok a => exact (hf a).mono h
  | error e => exact h

/-- What is read next is read from what is left. -/
theorem Grounded.andThen {r : Except ε (α × List Char)} {f : α × List Char → Except ε (β × List Char)}
    (h : Grounded ground Prod.snd after r) (hafter : after <:+ cs)
    (hf : ∀ a rest, Grounded ground Prod.snd rest (f (a, rest))) : Grounded ground Prod.snd cs (r >>= f) :=
  (h.bind fun found => hf found.1 found.2).mono hafter

theorem Grounded.map {r : Except ε α} {f : α → β} (h : Grounded ground left cs r) (hf : ∀ a, left' (f a) = left a) :
    Grounded ground left' cs (r.map f) := by
  cases r with
  | ok a =>
    have hleft : left' (f a) <:+ cs := hf a ▸ h
    exact hleft
  | error e => exact h

end Grounded

/-- What is left once all that has a property is taken off does not begin with it. -/
theorem not_any_head?_dropWhile (p : Char → Bool) (cs : List Char) : ¬(cs.dropWhile p).head?.any p := by
  have hstop := List.head?_dropWhile_not p cs
  cases hhead : (cs.dropWhile p).head? with
  | none => simp
  | some c => simpa [hhead] using hstop

namespace Json

open Text

/-- Digits that are an integer of too many digits, together with what comes after them. -/
structure LongInteger (digits after : List Char) : Prop where
  isDecimal_of_mem : ∀ c ∈ digits, isDecimal c
  maxDigits_lt : maxDigits < digits.length
  head?_ne_zero : digits.head? ≠ some '0'
  ends : ¬after.head?.any isDecimal
  fraction?_eq_none : fraction? after = none
  power?_eq_none : power? after = none

/-- Only integers of too many digits are grounds of their own. -/
inductive Ground : List Char → Failure → Prop where
  | malformed {part : List Char} {cause : Cause} {rest : List Char} : Ground part (.malformed cause rest)
  | longInteger {digits after : List Char} (h : LongInteger digits after) :
    Ground (digits ++ after) (.longNumeral digits.length)

/-- A reading of the front of a text. -/
abbrev Sound {α : Type} (cs : List Char) (r : Except Failure (α × List Char)) : Prop := Grounded Ground Prod.snd cs r

section Sound

variable {α : Type} {cs after : List Char}

theorem sound_malformed (cs : List Char) (cause : Cause) (rest : List Char) :
    Sound cs (.error (.malformed cause rest) : Except Failure (α × List Char)) := .of_error .malformed

theorem skipBlanks_suffix (cs : List Char) : skipBlanks cs <:+ cs := List.dropWhile_suffix _

theorem suffix_of_skipBlanks_eq_cons {c : Char} (h : skipBlanks cs = c :: after) : after <:+ cs :=
  (h ▸ List.suffix_cons c after).trans (skipBlanks_suffix cs)

/-! ### Strings -/

theorem readUnits_sound (start cs : List Char) : Sound cs (readUnits start cs) := by
  fun_induction readUnits start cs with
  | case1 => exact sound_malformed _ _ _
  | case2 => exact sound_malformed _ _ _
  | case3 a b c d e rest hhexadecimal ih =>
    exact ih.andThen (List.suffix_append ['\\', 'u', a, b, c, d] _) fun _ rest => List.suffix_refl rest
  | case4 => exact sound_malformed _ _ _
  | case5 => exact sound_malformed _ _ _
  | case6 c rest hc unit hunit ih =>
    exact ih.andThen (List.suffix_append ['\\', c] rest) fun _ rest => List.suffix_refl rest
  | case7 => exact sound_malformed _ _ _
  | case8 rest => exact List.suffix_cons '\"' rest
  | case9 => exact sound_malformed _ _ _
  | case10 c rest _ _ _ _ _ ih => exact ih.andThen (List.suffix_cons c rest) fun _ rest => List.suffix_refl rest

theorem readString_sound (start cs : List Char) : Sound cs (readString start cs) :=
  (readUnits_sound start cs).andThen (List.suffix_refl cs) fun _ rest => List.suffix_refl rest

/-! ### Numbers and words -/

theorem fraction?_suffix {digits : List Char} (h : fraction? cs = some (digits, after)) : after <:+ cs := by
  unfold fraction? at h
  split at h
  · next rest =>
    dsimp only at h
    split_ifs at h
    cases h
    exact (List.dropWhile_suffix _).trans (List.suffix_cons '.' rest)
  · cases h

theorem power?_suffix {n : Int} (h : power? cs = some (n, after)) : after <:+ cs := by
  cases cs with
  | nil => cases h
  | cons c rest =>
    have hafter : ∃ digits, after = digits.dropWhile isDecimal ∧ digits <:+ rest := by
      simp only [power?] at h
      split_ifs at h
      all_goals
        cases h
        refine ⟨_, rfl, ?_⟩
        split
        · exact List.suffix_cons _ _
        · exact List.suffix_cons _ _
        · exact List.suffix_refl _
    obtain ⟨digits, rfl, hdigits⟩ := hafter
    exact (List.dropWhile_suffix _).trans (hdigits.trans (List.suffix_cons c rest))

/-- Digits before a point are all that there are, unless they are a single zero. -/
theorem whole?_spec {digits : List Char} (h : whole? cs = some (digits, after)) :
    cs = digits ++ after ∧ (1 < digits.length → (∀ c ∈ digits, isDecimal c) ∧ digits.head? ≠ some '0' ∧
      ¬after.head?.any isDecimal) := by
  unfold whole? at h
  split at h
  · next rest =>
    cases h
    simp
  · next hzero =>
    dsimp only at h
    split_ifs at h with hempty
    cases h
    refine ⟨List.takeWhile_append_dropWhile.symm, fun _ => ⟨List.all_eq_true.mp List.all_takeWhile, fun hhead => ?_, ?_⟩⟩
    · rw [List.head?_takeWhile, Option.filter_eq_some_iff] at hhead
      obtain ⟨rest, hrest⟩ := List.head?_eq_some_iff.mp hhead.1
      exact hzero rest hrest
    · exact not_any_head?_dropWhile isDecimal cs

theorem readNumber_sound (negative : Bool) (start cs : List Char) : Sound cs (readNumber negative start cs) := by
  unfold readNumber
  split
  · exact sound_malformed _ _ _
  · next whole rest hwhole =>
    obtain ⟨rfl, hdigits⟩ := whole?_spec hwhole
    have hrest : rest <:+ whole ++ rest := List.suffix_append whole rest
    cases hfraction : fraction? rest with
    | some found =>
      have hafter : found.2 <:+ whole ++ rest := (fraction?_suffix hfraction).trans hrest
      cases hpower : power? found.2 with
      | some scaled =>
        simp only [hpower]
        exact (power?_suffix hpower).trans hafter
      | none =>
        simp only [hpower]
        exact hafter
    | none =>
      cases hpower : power? rest with
      | some scaled =>
        simp only [hpower, Bool.or_true, if_true]
        exact (power?_suffix hpower).trans hrest
      | none =>
        simp only [hpower, Bool.or_false, Bool.false_eq_true, if_false]
        split_ifs with hlong
        · have hmany : 1 < whole.length := Nat.lt_of_le_of_lt (by decide) hlong
          obtain ⟨hdecimal, hhead, hends⟩ := hdigits hmany
          exact .of_error (.longInteger ⟨hdecimal, hlong, hhead, hends, hfraction, hpower⟩)
        · exact hrest
        · exact hrest

theorem readAtom_sound (cs : List Char) : Sound cs (readAtom cs) := by
  unfold readAtom
  split
  · next found hfound =>
    obtain ⟨w, -, hw⟩ := List.exists_of_findSome?_eq_some hfound
    obtain ⟨rest, hrest, rfl⟩ := Option.map_eq_some_iff.mp hw
    unfold after? at hrest
    split_ifs at hrest
    cases hrest
    exact List.drop_suffix _ _
  · split
    · next rest _ => exact (readNumber_sound true _ rest).mono (List.suffix_cons '-' rest)
    · exact readNumber_sound false _ _

/-! ### Values -/

/-- A value, the items of a list and the members of a map are read from the front of a text. -/
theorem readValue_sound (depth : Nat) (cs : List Char) :
    Sound cs (readValue depth cs) ∧ Sound cs (readItems depth cs) ∧ Sound cs (readMembers depth cs) := by
  induction depth generalizing cs with
  | zero => exact ⟨sound_malformed _ _ _, sound_malformed _ _ _, sound_malformed _ _ _⟩
  | succ depth ih =>
    refine ⟨?value, ?items, ?members⟩
    case value =>
      unfold readValue
      split
      · next rest => exact (readString_sound _ rest).andThen (List.suffix_cons _ rest) fun _ rest => List.suffix_refl rest
      · next rest =>
        split
        · next hend => exact (suffix_of_skipBlanks_eq_cons hend).trans (List.suffix_cons _ rest)
        · have hrest := (skipBlanks_suffix rest).trans (List.suffix_cons '\x7b' rest)
          exact (ih _).2.2.andThen hrest fun _ rest => List.suffix_refl rest
      · next rest =>
        split
        · next hend => exact (suffix_of_skipBlanks_eq_cons hend).trans (List.suffix_cons _ rest)
        · have hrest := (skipBlanks_suffix rest).trans (List.suffix_cons '[' rest)
          exact (ih _).2.1.andThen hrest fun _ rest => List.suffix_refl rest
      · exact readAtom_sound _
    case items =>
      rw [readItems]
      refine (ih cs).1.andThen (List.suffix_refl cs) fun v rest => ?_
      dsimp only
      split
      · next hend => exact suffix_of_skipBlanks_eq_cons hend
      · next hcomma =>
        have hrest := (skipBlanks_suffix _).trans (suffix_of_skipBlanks_eq_cons hcomma)
        exact (ih _).2.1.andThen hrest fun _ rest => List.suffix_refl rest
      · exact sound_malformed _ _ _
    case members =>
      unfold readMembers
      split
      · next rest =>
        refine (readString_sound _ rest).andThen (List.suffix_cons _ rest) fun name rest => ?_
        dsimp only
        split
        · next hcolon =>
          have hrest := (skipBlanks_suffix _).trans (suffix_of_skipBlanks_eq_cons hcolon)
          refine (ih _).1.andThen hrest fun v rest => ?_
          dsimp only
          split
          · next hend => exact suffix_of_skipBlanks_eq_cons hend
          · next hcomma =>
            have hrest := (skipBlanks_suffix _).trans (suffix_of_skipBlanks_eq_cons hcomma)
            exact (ih _).2.2.andThen hrest fun _ rest => List.suffix_refl rest
          · exact sound_malformed _ _ _
        · exact sound_malformed _ _ _
      · exact sound_malformed _ _ _

/-- A text that is not refused for its form is refused for an integer of too many digits that stands in it. -/
theorem exists_longInteger_of_read {n : Nat} (h : read cs = .error (.longNumeral n)) :
    ∃ digits after, digits ++ after <:+ cs ∧ LongInteger digits after ∧ digits.length = n := by
  have hsound : Sound cs (readValue (2 * cs.length + 2) (skipBlanks cs)) :=
    (readValue_sound _ _).1.mono (skipBlanks_suffix cs)
  unfold read at h
  split_ifs at h
  · cases h
  · dsimp only at h
    rcases hread : readValue (2 * cs.length + 2) (skipBlanks cs) with e | ⟨v, rest⟩
    · rw [hread] at h hsound
      cases h
      obtain ⟨part, hpart, hground⟩ := hsound
      cases hground with
      | longInteger hlong => exact ⟨_, _, hpart, hlong, rfl⟩
    · rw [hread] at h
      simp only [bind, Except.bind] at h
      split_ifs at h
      all_goals cases h

end Sound

end Json

end ShapeTables
