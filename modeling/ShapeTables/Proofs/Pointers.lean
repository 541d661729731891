import Mathlib.Data.List.Basic
import ShapeTables.Shape.Pointer

/-! Pointers that are built and split. When no slash is in the names that a pointer to a column of a table is built
of, it is split into the name of this table and this column. What any pointer is split into holds no slash. -/
namespace ShapeTables.Shape

open Text

/-- The name at the end of a path holds the characters of the names on the path, and underscores. -/
theorem mem_qualifiedName_iff {c : Char} (hc : c ≠ '_') {path : List String} :
    c ∈ (qualifiedName path).toList ↔ ∃ name ∈ path, c ∈ name.toList := by
  rw [qualifiedName, joinWith, String.toList_ofList, mem_joinChars_iff hc]
  simp only [List.mem_map, exists_exists_and_eq_and]

namespace Pointer

/-- What a pointer is split into holds no slash. -/
theorem slash_not_mem_split (pointer : String) :
    '/' ∉ (split pointer).1.toList ∧ '/' ∉ (split pointer).2.toList := by
  have hpieces : ∀ piece ∈ splitOn '/' (withoutLead pointer), '/' ∉ piece.toList := not_mem_of_mem_splitOn
  constructor
  · rw [split, mem_qualifiedName_iff (by decide)]
    rintro ⟨name, hname, hslash⟩
    exact hpieces name (List.dropLast_subset _ hname) hslash
  · have hne : splitOn '/' (withoutLead pointer) ≠ [] := by simpa [splitOn] using splitChars_ne_nil '/' _
    simpa [split, List.getLast?_eq_some_getLast hne] using hpieces _ (List.getLast_mem hne)

theorem withoutLead_build (path : List String) (column : String) :
    withoutLead (build path column) = joinWith '/' (path ++ [column]) := by
  obtain ⟨first, rest, h⟩ := List.exists_cons_of_ne_nil (List.concat_ne_nil column path)
  have hbuild : (build path column).toList = '#' :: '/' :: (joinWith '/' (path ++ [column])).toList := by
    simp [build, joinWith, h, joinChars]
  rw [withoutLead, hbuild]
  simp [lead]

/-- A pointer whose names hold no slash is split into what it was built of. -/
theorem split_build {path : List String} {column : String} (hpath : ∀ name ∈ path, '/' ∉ name.toList)
    (hcolumn : '/' ∉ column.toList) : split (build path column) = (qualifiedName path, column) := by
  have hpieces : splitOn '/' (withoutLead (build path column)) = path ++ [column] := by
    rw [withoutLead_build, splitOn_joinWith (by simp)]
    intro name hname
    rcases List.mem_append.mp hname with hname | hname
    · exact hpath name hname
    · rwa [List.mem_singleton.mp hname]
  rw [split, hpieces]
  simp

end Pointer

end ShapeTables.Shape
