import ShapeTables.Proofs.FaultPaths

/-! Taking tags out of locations. A tagged location goes from the root to a table and from there from column to column,
with the tag of every column right after the step to it, and ends at a column or at one of its fields. Whatever the
names on the way are spelled like, `untag` leaves the same steps without these tags. -/
namespace ShapeTables.Shape

/-- The way from a column to one in it: a property of a table, or the items of an array. The column that it comes to
has a tag. -/
inductive Descent where
  | property (name : String) (tag : Tag)
  | items (tag : Tag)

namespace Descent

/-- The steps in the document. -/
def steps : Descent → Location
  | property name _ => [.name "properties", .name name]
  | items _ => [.name "items"]

def tag : Descent → Tag
  | property _ tag => tag
  | items tag => tag

/-- The steps with the tag of the column that they lead to. -/
def tagged (d : Descent) : Location := d.steps ++ [.name d.tag.name]

end Descent

/-- Where a location can end below a column: at the column, at a property or at the items, whose tag is not known yet, or
at a field. What is tried for a constant in several ways has the way as its last step. -/
inductive Ending where
  | column
  | property (name : String)
  | properties
  | items
  | type
  | format
  | description
  | pointer
  | primaryKey
  | required (index : Option Int)
  | default (branch : Option String)
  | enum (value : Option (Int × Option String))

def Ending.location : Ending → Location
  | column => []
  | property name => [.name "properties", .name name]
  | properties => [.name "properties"]
  | items => [.name "items"]
  | type => [.name "type"]
  | format => [.name "format"]
  | description => [.name "description"]
  | pointer => [.name "$ref"]
  | primaryKey => [.name "x-primaryKey"]
  | required none => [.name "required"]
  | required (some i) => [.name "required", .index i]
  | default none => [.name "default"]
  | default (some branch) => [.name "default", .name branch]
  | enum none => [.name "enum"]
  | enum (some (i, none)) => [.name "enum", .index i]
  | enum (some (i, some branch)) => [.name "enum", .index i, .name branch]

variable {kept : Nat}

/-- From the third step on, the way to a column comes to the state in which the tag of the column is taken out. -/
theorem Descent.untagFrom_tagged (hkept : 2 ≤ kept) (d : Descent) (rest : Location) :
    untagFrom .anything kept (d.tagged ++ rest) =
      d.steps ++ untagFrom .anything (kept + d.steps.length) rest := by
  cases d with
  | property name tag =>
    have hproperties : Expected.next .anything (.name "properties") (kept + 1) = .property := rfl
    have hname : Expected.next .property (.name name) (kept + 1 + 1) = .tag := if_pos (by omega)
    simp only [tagged, steps, Descent.tag, List.cons_append, List.nil_append, List.length_cons, List.length_nil]
    rw [untagFrom_cons (by simp), hproperties, untagFrom_cons (by simp), hname, untagFrom_tag]
  | items tag =>
    have hitems : Expected.next .anything (.name "items") (kept + 1) = .tag := rfl
    simp only [tagged, steps, Descent.tag, List.cons_append, List.nil_append, List.length_cons, List.length_nil]
    rw [untagFrom_cons (by simp), hitems, untagFrom_tag]

/-- The state between two columns is always the one in which anything is expected, so one column after another loses
its tag. -/
theorem untagFrom_flatMap_tagged (hkept : 2 ≤ kept) (way : List Descent) (rest : Location) :
    untagFrom .anything kept (way.flatMap Descent.tagged ++ rest) =
      way.flatMap Descent.steps ++ untagFrom .anything (kept + (way.flatMap Descent.steps).length) rest := by
  induction way generalizing kept with
  | nil => rfl
  | cons d way ih =>
    have hnext : 2 ≤ kept + d.steps.length := by omega
    rw [List.flatMap_cons, List.flatMap_cons, List.append_assoc, d.untagFrom_tagged hkept, ih hnext, List.append_assoc,
      List.length_append, Nat.add_assoc]

/-- Only after one of two words can there be a tag, so a location is kept in which they stand nowhere but at the end. -/
theorem untagFrom_concat (loc : Location) (h : ∀ step ∈ loc, IsPlain step) (last : Step) :
    untagFrom .anything kept (loc ++ [last]) = loc ++ [last] := by
  induction loc generalizing kept with
  | nil => rfl
  | cons step rest ih =>
    obtain ⟨⟨hproperties, hitems⟩, hrest⟩ := List.forall_mem_cons.mp h
    have hnext : Expected.next .anything step (kept + 1) = .anything := by simp [Expected.next, hproperties, hitems]
    rw [List.cons_append, untagFrom_cons (by simp), hnext, ih hrest]

theorem Ending.untagFrom_location (e : Ending) : untagFrom .anything kept e.location = e.location := by
  have hplain : ∀ name : String, name ≠ "properties" → name ≠ "items" → IsPlain (.name name) :=
    fun name hproperties hitems => ⟨by simpa using hproperties, by simpa using hitems⟩
  match e with
  | column => rfl
  | property name =>
    rw [location, untagFrom_cons (by simp), untagFrom_cons (by simp [Expected.next])]
    rfl
  | properties => exact untagFrom_concat [] (by simp) _
  | items => exact untagFrom_concat [] (by simp) _
  | type | format | description | pointer | primaryKey => exact untagFrom_concat [] (by simp) _
  | required none | default none | enum none => exact untagFrom_concat [] (by simp) _
  | required (some i) => exact untagFrom_concat [_] (by simp [hplain]) _
  | default (some branch) => exact untagFrom_concat [_] (by simp [hplain]) _
  | enum (some (i, none)) => exact untagFrom_concat [_] (by simp [hplain]) _
  | enum (some (i, some branch)) => exact untagFrom_concat [_, _] (by simp [hplain, isPlain_index]) _

/-- The tags of columns are taken out of a location and nothing else, however its names are spelled. A table at the
root has no tag. -/
theorem untag_tagged (table : String) (way : List Descent) (ending : Ending) :
    untag (.name "properties" :: .name table :: (way.flatMap Descent.tagged ++ ending.location)) =
      .name "properties" :: .name table :: (way.flatMap Descent.steps ++ ending.location) := by
  have hproperties : Expected.next .anything (.name "properties") (0 + 1) = .property := rfl
  have htable : Expected.next .property (.name table) (0 + 1 + 1) = .anything := rfl
  rw [untag, untagFrom_cons (by simp), hproperties, untagFrom_cons (by simp), htable,
    untagFrom_flatMap_tagged (by omega), ending.untagFrom_location]

/-- The names of the table and the columns are words of the language of shapes themselves. -/
example : untag [.name "properties", .name "object", .name "properties", .name "items", .name "array", .name "items",
      .name "object", .name "properties", .name "string", .name "string", .name "enum", .index 0, .name "str"] =
    [.name "properties", .name "object", .name "properties", .name "items", .name "items", .name "properties",
      .name "string", .name "enum", .index 0, .name "str"] := by decide

end ShapeTables.Shape
