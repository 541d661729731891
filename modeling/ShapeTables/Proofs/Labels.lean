import Mathlib.Data.List.Basic
import ShapeTables.Sql.Script

/-! Labels of targets. A label is taken for the table before its last dot and the column after it. So a target
is found again if its column has no dot, and a label is taken for the only table and column without a dot that
spell it. -/
namespace ShapeTables.Sql

open Flat (Target)

theorem toList_label (target : Target) :
    (label target).toList = target.table.toList ++ '.' :: target.column.toList := by
  simp [label]

/-- A label whose column has no dot is taken for its own target. -/
theorem labelled_label {target : Target} (h : '.' ∉ target.column.toList) : labelled (label target) = target := by
  have hparts : Text.splitOn '.' (label target) = Text.splitOn '.' target.table ++ [target.column] := by
    rw [Text.splitOn, toList_label, Text.splitChars_append, Text.splitChars_of_not_mem h]
    simp [Text.splitOn]
  rw [labelled, hparts]
  simp [Text.joinWith_splitOn]

/-- Every label is the label of a target whose column has no dot. -/
theorem exists_label_eq (target : Target) : ∃ cut : Target,
    '.' ∉ cut.column.toList ∧ label cut = label target := by
  have hdot : '.' ∈ (label target).toList.reverse := by simp [toList_label]
  obtain ⟨after, before, hreverse, hafter⟩ := List.eq_append_cons_of_mem hdot
  have hcut : (label target).toList = before.reverse ++ '.' :: after.reverse := by
    rw [← List.reverse_reverse (label target).toList, hreverse]
    simp
  refine ⟨⟨String.ofList before.reverse, String.ofList after.reverse⟩, by simpa using hafter, ?_⟩
  apply String.toList_inj.mp
  rw [hcut, toList_label]
  simp

/-- A label is taken for the target that spells it and whose column has no dot. -/
theorem labelled_label_eq_iff {sought target : Target} :
    labelled (label target) = sought ↔ '.' ∉ sought.column.toList ∧ label sought = label target := by
  constructor
  · rintro rfl
    obtain ⟨cut, hcut, hlabel⟩ := exists_label_eq target
    rw [← hlabel, labelled_label hcut]
    exact ⟨hcut, rfl⟩
  · rintro ⟨hdot, hlabel⟩
    rw [← hlabel, labelled_label hdot]

end ShapeTables.Sql
