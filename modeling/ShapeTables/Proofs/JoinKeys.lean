import ShapeTables.Proofs.PrimaryKeys
import ShapeTables.Proofs.Violations

/-! Tables that can be joined to. Nested tables point at the key of the table around them, and references may point at
it. In a shape that keeps the rules, a table that has nested tables or names a key has such a key: the key that is
pointed at is the one that the table declares, and it is a property of a type that foreign keys can have. -/
namespace ShapeTables.Shape

open Flat (ColumnType)

/-- Tables whose key is the one that is pointed at, and a property with values of a type that foreign keys can have. -/
structure TableOf.Joinable (t : Table) : Prop where
  effectiveKey?_eq : t.effectiveKey? = some t.joinKey
  key_type : ∃ column flat, t.find? t.joinKey = some column ∧ Flat.flatColumn? (t.joinKey, column) = some flat ∧
    flat.type ∈ [ColumnType.uuid, .string, .boolean, .integer]

/-- A table that keeps the rules can be joined to as soon as it has the key that is pointed at. -/
theorem TableOf.joinable_iff_effectiveKey {t : Table} {loc : Location} (h : ownProblems loc t = []) :
    t.Joinable ↔ t.effectiveKey? = some t.joinKey := by
  constructor
  · exact fun hjoin => hjoin.effectiveKey?_eq
  · intro hkey
    obtain ⟨c, hfind, hproblem⟩ := find?_key h hkey
    exact ⟨hkey, _, _, hfind, rfl, Flat.mem_keyTypes_iff.mpr (Flat.keyProblem?_eq_none_iff.mp hproblem)⟩

/-- In a shape that keeps the rules, the tables that have a nested table or array, name a key or have a column named id
are those that can be joined to. An empty name names no key. -/
theorem Database.joinable_iff {db : Database} (h : db.problems = []) {loc : Location} {t : Table}
    (ht : db.TableAt loc t) :
    ((∃ p ∈ t.properties, ∃ type, p.2.Nested type) ∨ (∃ key, t.primaryKey = some key ∧ key ≠ "") ∨
      ∃ column, ("id", column) ∈ t.properties) ↔ t.Joinable := by
  have hown : ownProblems loc t = [] :=
    (tableProblems_eq_nil_iff.mp (List.subset_nil.mp (h ▸ ht.tableProblems_subset))).2
  have hexplicit : (∃ key, t.primaryKey = some key ∧ key ≠ "") ↔ t.explicitKey?.isSome := by
    simp only [Option.isSome_iff_exists, TableOf.explicitKey?_eq_some_iff]
  have hid : (∃ column, ("id", column) ∈ t.properties) ↔ (t.find? "id").isSome := by
    constructor
    · rintro ⟨column, hmem⟩
      exact TableOf.isSome_find? hmem
    · intro hfind
      obtain ⟨column, hfind⟩ := Option.isSome_iff_exists.mp hfind
      exact ⟨column, TableOf.mem_of_find? hfind⟩
  rw [TableOf.joinable_iff_effectiveKey hown, hexplicit, hid]
  constructor
  · rintro (⟨p, hp, type, hnested⟩ | hkey)
    · refine TableOf.effectiveKey?_eq_joinKey_of_nested hown hp ?_
      rw [nestedType?_eq_some_iff.mpr hnested, Option.isSome_some]
    · exact TableOf.effectiveKey?_eq_joinKey_iff.mpr hkey
  · exact fun hkey => .inr (TableOf.effectiveKey?_eq_joinKey_iff.mp hkey)

/-- Books that name a key of their own, on shelves that name none. -/
def books : Table := ⟨[("isbn", .value ⟨.string none, none, none, none⟩), ("lent", .ref "#/shelves/id")], none, some "isbn"⟩

def shelves : Database :=
  ⟨[("shelves", ⟨[("id", .value ⟨.string (some .uuid), none, none, none⟩), ("books", .array (.table books))], none,
      some ""⟩)]⟩

theorem joinable_books : shelves.problems = [] ∧
    shelves.TableAt [.name "properties", .name "shelves", .name "properties", .name "books", .name "items"] books ∧
    books.Joinable := by
  have hat : shelves.TableAt ([.name "properties", .name "shelves"] ++ [.name "properties", .name "books"] ++
      [.name "items"]) books :=
    .nested (.root (.head _)) (.tail _ (.head _)) .item
  exact ⟨rfl, hat, (Database.joinable_iff rfl hat).mp (.inr (.inl ⟨"isbn", rfl, by decide⟩))⟩

end ShapeTables.Shape
