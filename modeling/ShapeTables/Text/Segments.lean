/-! Cutting a text at a separator and joining the pieces again. Cutting always yields at least one
piece, no piece holds the separator, and joining undoes cutting. -/
namespace ShapeTables.Text

/-- The pieces between the occurrences of `sep`, the empty ones included. -/
def splitChars (sep : Char) : List Char → List (List Char)
  | [] => [[]]
  | c :: rest =>
    if c = sep then [] :: splitChars sep rest
    else match splitChars sep rest with
      | [] => [[c]]
      | piece :: pieces => (c :: piece) :: pieces

/-- The pieces one after another, with `sep` between neighbours. -/
def joinChars (sep : Char) : List (List Char) → List Char
  | [] => []
  | [piece] => piece
  | piece :: next :: pieces => piece ++ sep :: joinChars sep (next :: pieces)

/-- The pieces of a text between the occurrences of `sep`. -/
def splitOn (sep : Char) (s : String) : List String :=
  (splitChars sep s.toList).map String.ofList

/-- The texts one after another, with `sep` between neighbours. -/
def joinWith (sep : Char) (pieces : List String) : String :=
  String.ofList (joinChars sep (pieces.map String.toList))

theorem splitChars_ne_nil (sep : Char) (cs : List Char) : splitChars sep cs ≠ [] := by
  cases cs with
  | nil => simp [splitChars]
  | cons c rest =>
    rw [splitChars]
    split
    · simp
    · split <;> simp

theorem joinChars_splitChars (sep : Char) (cs : List Char) : joinChars sep (splitChars sep cs) = cs := by
  induction cs with
  | nil => rfl
  | cons c rest ih =>
    rw [splitChars]
    obtain ⟨piece, pieces, h⟩ := List.exists_cons_of_ne_nil (splitChars_ne_nil sep rest)
    rw [h] at ih ⊢
    split
    · next hc => simp [joinChars, ih, hc]
    · cases pieces with
      | nil => simpa [joinChars] using ih
      | cons next pieces => simpa [joinChars] using ih

theorem splitChars_append (sep : Char) (before after : List Char) :
    splitChars sep (before ++ sep :: after) = splitChars sep before ++ splitChars sep after := by
  induction before with
  | nil => simp [splitChars]
  | cons c rest ih =>
    rw [List.cons_append, splitChars, splitChars, ih]
    obtain ⟨piece, pieces, h⟩ := List.exists_cons_of_ne_nil (splitChars_ne_nil sep rest)
    rw [h]
    split <;> rfl

theorem splitChars_of_not_mem {sep : Char} {cs : List Char} (h : sep ∉ cs) : splitChars sep cs = [cs] := by
  induction cs with
  | nil => rfl
  | cons c rest ih =>
    rw [List.mem_cons, not_or] at h
    rw [splitChars, if_neg (Ne.symm h.1), ih h.2]

/-- No piece holds the separator. -/
theorem not_mem_of_mem_splitChars {sep : Char} {cs : List Char} : ∀ piece ∈ splitChars sep cs, sep ∉ piece := by
  induction cs with
  | nil => simp [splitChars]
  | cons c rest ih =>
    obtain ⟨piece, pieces, h⟩ := List.exists_cons_of_ne_nil (splitChars_ne_nil sep rest)
    rw [h, List.forall_mem_cons] at ih
    rw [splitChars, h]
    split
    · simpa using ih
    · next hc => simpa [List.forall_mem_cons, Ne.symm hc] using ih

/-- Cutting undoes joining when no piece holds the separator. -/
theorem splitChars_joinChars {sep : Char} {pieces : List (List Char)} (hne : pieces ≠ [])
    (h : ∀ piece ∈ pieces, sep ∉ piece) : splitChars sep (joinChars sep pieces) = pieces := by
  induction pieces with
  | nil => exact absurd rfl hne
  | cons piece rest ih =>
    obtain ⟨hpiece, hrest⟩ := List.forall_mem_cons.mp h
    cases rest with
    | nil => exact splitChars_of_not_mem hpiece
    | cons next pieces =>
      rw [joinChars, splitChars_append, splitChars_of_not_mem hpiece, ih (List.cons_ne_nil _ _) hrest]
      rfl

/-- What is joined holds the characters of the pieces, and the separator if there are two of them. -/
theorem mem_joinChars_iff {sep c : Char} (hc : c ≠ sep) {pieces : List (List Char)} :
    c ∈ joinChars sep pieces ↔ ∃ piece ∈ pieces, c ∈ piece := by
  induction pieces with
  | nil => simp [joinChars]
  | cons piece rest ih =>
    cases rest with
    | nil => simp [joinChars]
    | cons next pieces => simp [joinChars, ih, hc]

theorem joinChars_concat {sep : Char} {pieces : List (List Char)} (hne : pieces ≠ []) (piece : List Char) :
    joinChars sep (pieces ++ [piece]) = joinChars sep pieces ++ sep :: piece := by
  induction pieces with
  | nil => exact absurd rfl hne
  | cons first rest ih =>
    cases rest with
    | nil => rfl
    | cons next pieces =>
      have ih : joinChars sep (next :: pieces ++ [piece]) = joinChars sep (next :: pieces) ++ sep :: piece :=
        ih (List.cons_ne_nil _ _)
      have hpiece : joinChars sep (first :: next :: pieces ++ [piece]) =
          first ++ sep :: joinChars sep (next :: pieces ++ [piece]) := rfl
      rw [hpiece, ih, joinChars, List.append_assoc, List.cons_append]

/-- One more piece is joined with the separator before it. -/
theorem joinWith_concat {sep : Char} {pieces : List String} (hne : pieces ≠ []) (piece : String) :
    joinWith sep (pieces ++ [piece]) = joinWith sep pieces ++ String.singleton sep ++ piece := by
  have hchars : joinChars sep ((pieces ++ [piece]).map String.toList) =
      joinChars sep (pieces.map String.toList) ++ sep :: piece.toList := by
    rw [List.map_append]
    exact joinChars_concat (by simpa using hne) _
  rw [← String.toList_inj, joinWith, joinWith, String.toList_ofList, hchars]
  simp

/-- A piece before others is joined with the separator after it. -/
theorem joinWith_cons {sep : Char} {pieces : List String} (hne : pieces ≠ []) (piece : String) :
    joinWith sep (piece :: pieces) = piece ++ String.singleton sep ++ joinWith sep pieces := by
  obtain ⟨next, rest, rfl⟩ := List.exists_cons_of_ne_nil hne
  rw [← String.toList_inj]
  simp [joinWith, joinChars]

theorem not_mem_of_mem_splitOn {sep : Char} {s : String} : ∀ piece ∈ splitOn sep s, sep ∉ piece.toList := by
  intro piece hpiece
  obtain ⟨cs, hcs, rfl⟩ := List.mem_map.mp hpiece
  rw [String.toList_ofList]
  exact not_mem_of_mem_splitChars cs hcs

theorem splitOn_joinWith {sep : Char} {pieces : List String} (hne : pieces ≠ [])
    (h : ∀ piece ∈ pieces, sep ∉ piece.toList) : splitOn sep (joinWith sep pieces) = pieces := by
  have hchars : splitChars sep (joinChars sep (pieces.map String.toList)) = pieces.map String.toList :=
    splitChars_joinChars (by simpa using hne) (by simpa using h)
  rw [splitOn, joinWith, String.toList_ofList, hchars, List.map_map]
  exact (List.map_congr_left fun s _ => String.ofList_toList).trans (List.map_id pieces)

theorem joinWith_splitOn (sep : Char) (s : String) : joinWith sep (splitOn sep s) = s := by
  have h : String.toList ∘ String.ofList = id := by funext cs; simp
  simp [joinWith, splitOn, List.map_map, h, joinChars_splitChars]

end ShapeTables.Text
