import ShapeTables.Text.Segments

/-! Pointers of references. A pointer names a column by the path of tables that leads to it, each step after
a slash and a number sign in front. The tables of a path are known by one name, their names joined by
underscores. -/
namespace ShapeTables.Shape

open Text

/-- The name of the table at the end of a path of nested tables. -/
def qualifiedName (path : List String) : String := joinWith '_' path

namespace Pointer

def lead : String := "#/"

/-- The pointer to a column of the table at the end of a path. -/
def build (path : List String) (column : String) : String :=
  joinWith '/' ("#" :: path ++ [column])

/-- The text without the lead of a pointer, if it has it. -/
def withoutLead (pointer : String) : String :=
  if lead.toList.isPrefixOf pointer.toList then String.ofList (pointer.toList.drop 2) else pointer

/-- The table and column that a pointer names. -/
def split (pointer : String) : String × String :=
  let segments := splitOn '/' (withoutLead pointer)
  (qualifiedName segments.dropLast, segments.getLast?.getD "")

inductive Problem where
  | noLead
  | noColumn
deriving DecidableEq, Repr

def Problem.message : Problem → String
  | .noLead => "$ref must start with \"#/\""
  | .noColumn => "$ref must include at least one table and a column, e.g. \"#/users/id\""

/-- What is wrong with the form of a pointer: it lacks its lead, or one of its segments is missing or empty. -/
def problems (pointer : String) : List Problem :=
  let segments := splitOn '/' pointer
  (if lead.toList.isPrefixOf pointer.toList then [] else [.noLead]) ++
    (if segments.length < 3 ∨ segments.tail.any String.isEmpty then [.noColumn] else [])

end Pointer

end ShapeTables.Shape
