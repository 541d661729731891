import ShapeTables.Flat.Flatten
import ShapeTables.Proofs.Validation

/-! Segments of pointers. A pointer is cut at its slashes with its lead when its form is checked and without it when
it is resolved; the segments are the same but for the number sign. So a pointer has no problems exactly when it spells
the names of tables and of a column, and these are the names that it is split into. The pointers of back references
are not checked; they are split into the names that they are built of exactly when these hold no slash. -/
namespace ShapeTables.Shape

open Text (joinWith joinWith_cons joinWith_splitOn splitOn splitOn_joinWith not_mem_of_mem_splitOn)

/-! ### Back references -/

/-- The pointer of a back reference is split into the name of the table around and the key of this table exactly when
no slash is in the names that it is built of. -/
theorem split_backReference_iff (path : List String) (key : String) :
    Pointer.split (Flat.BackReference.to path key).pointer = (qualifiedName path, key) ↔
      '/' ∉ key.toList ∧ ∀ name ∈ path, '/' ∉ name.toList := by
  constructor
  · intro h
    obtain ⟨htable, hcolumn⟩ := Pointer.slash_not_mem_split (Flat.BackReference.to path key).pointer
    rw [h] at htable hcolumn
    -- the names are joined by underscores, so that a slash in one of them is still in the name of the table
    rw [mem_qualifiedName_iff (by decide)] at htable
    exact ⟨hcolumn, fun name hname hslash => htable ⟨name, hname, hslash⟩⟩
  · rintro ⟨hkey, hpath⟩
    exact Pointer.split_build hpath hkey

/-- A slash in a name is taken for a step from a table to one in it. -/
example : Pointer.split (Flat.BackReference.to ["a/b"] "id").pointer = ("a_b", "id") := by decide

/-! ### Pointers without problems -/

theorem qualifiedName_ne_empty {path : List String} (hne : path ≠ []) (h : ∀ name ∈ path, name ≠ "") :
    qualifiedName path ≠ "" := by
  obtain ⟨first, rest, rfl⟩ := List.exists_cons_of_ne_nil hne
  cases rest with
  | nil => simpa [qualifiedName, joinWith, Text.joinChars] using h
  | cons next rest =>
    rw [qualifiedName, joinWith_cons (List.cons_ne_nil _ _)]
    simp

namespace Pointer

/-- Pointers that spell a column of a table: after the lead come the names of the tables on the way, at least one, and
the name of the column, with one slash between neighbours. -/
structure Spells (pointer : String) (tables : List String) (column : String) : Prop where
  text : pointer = "#/" ++ joinWith '/' (tables ++ [column])
  tables_ne_nil : tables ≠ []
  names : ∀ name ∈ tables ++ [column], name ≠ "" ∧ '/' ∉ name.toList

variable {pointer column : String} {tables : List String}

/-- With the lead, the segments are the number sign and the segments of the rest. -/
theorem splitOn_lead_append (rest : String) : splitOn '/' ("#/" ++ rest) = "#" :: splitOn '/' rest := by
  simp [splitOn, Text.splitChars]

theorem withoutLead_lead_append (rest : String) : withoutLead ("#/" ++ rest) = rest := by
  simp [withoutLead, lead]

namespace Spells

theorem splitOn_names (h : Spells pointer tables column) :
    splitOn '/' (joinWith '/' (tables ++ [column])) = tables ++ [column] :=
  splitOn_joinWith (by simp) fun name hname => (h.names name hname).2

theorem leads_and_names (h : Spells pointer tables column) : Leads pointer ∧ Names pointer := by
  refine ⟨⟨_, h.text⟩, names_iff.mpr ?_⟩
  rw [h.text, splitOn_lead_append, h.splitOn_names]
  refine ⟨?_, fun name hname => (h.names name hname).1⟩
  have hlength : 0 < tables.length := List.length_pos_iff.mpr h.tables_ne_nil
  simp only [List.length_cons, List.length_append, List.length_nil]
  omega

theorem split_eq (h : Spells pointer tables column) : split pointer = (qualifiedName tables, column) := by
  rw [split, h.text, withoutLead_lead_append, h.splitOn_names]
  simp

theorem ne_empty (h : Spells pointer tables column) : qualifiedName tables ≠ "" ∧ column ≠ "" := by
  constructor
  · exact qualifiedName_ne_empty h.tables_ne_nil fun name hname => (h.names name (List.mem_append_left _ hname)).1
  · exact (h.names column (by simp)).1

end Spells

/-- A pointer that begins with the lead and has the names that it needs spells a column: its last segment, with the
tables before it. -/
theorem exists_spells (hleads : Leads pointer) (hnames : Names pointer) :
    ∃ tables column, Spells pointer tables column := by
  obtain ⟨rest, rfl⟩ := hleads
  rw [names_iff, splitOn_lead_append] at hnames
  obtain ⟨hlength, hnonempty⟩ := hnames
  have hjoin := joinWith_splitOn '/' rest
  have hplain : ∀ name ∈ splitOn '/' rest, '/' ∉ name.toList := not_mem_of_mem_splitOn
  rw [List.tail_cons] at hnonempty
  obtain hnil | ⟨tables, column, hsegments⟩ := List.eq_nil_or_concat (splitOn '/' rest)
  · simp [hnil] at hlength
  · rw [List.concat_eq_append] at hsegments
    rw [hsegments] at hlength hnonempty hjoin hplain
    -- a single segment would be a column without a table
    have hne : tables ≠ [] := by
      rintro rfl
      simp at hlength
    exact ⟨tables, column, congrArg _ hjoin.symm, hne, fun name hname => ⟨hnonempty name hname, hplain name hname⟩⟩

theorem problems_eq_nil_iff : problems pointer = [] ↔ Leads pointer ∧ Names pointer := by
  rw [← @refProblems_eq_nil_iff [], List.eq_nil_iff_forall_not_mem, leads_and_names_iff []]
  simp only [mem_refProblems_iff]

/-- The pointers of a valid document have no problems. -/
theorem problems_eq_nil_of_validate {document : Value} {db : Database} {loc : Location}
    (hvalid : validate document = .ok db) (h : db.PointerAt loc pointer) : problems pointer = [] := by
  obtain ⟨-, -, hproblems⟩ := validate_eq_ok_iff.mp hvalid
  have hsubset := h.refProblems_subset
  rw [hproblems, List.subset_nil] at hsubset
  exact refProblems_eq_nil_iff.mp hsubset

/-- A pointer has no problems exactly when it spells a column of a table, and it is split into what it spells. So no
pointer of a valid document is split into a table or a column without a name. -/
theorem problems_split_agree (pointer : String) :
    (problems pointer = [] ↔ ∃ tables column, Spells pointer tables column) ∧
      (∀ tables column, Spells pointer tables column →
        split pointer = (joinWith '_' tables, column) ∧ joinWith '_' tables ≠ "" ∧ column ≠ "") ∧
      ∀ document db loc, validate document = .ok db → db.PointerAt loc pointer →
        (split pointer).1 ≠ "" ∧ (split pointer).2 ≠ "" := by
  have hiff : problems pointer = [] ↔ ∃ tables column, Spells pointer tables column := by
    rw [problems_eq_nil_iff]
    constructor
    · rintro ⟨hleads, hnames⟩
      exact exists_spells hleads hnames
    · rintro ⟨tables, column, h⟩
      exact h.leads_and_names
  refine ⟨hiff, fun tables column h => ⟨h.split_eq, h.ne_empty⟩, fun document db loc hvalid hpointer => ?_⟩
  obtain ⟨tables, column, h⟩ := hiff.mp (problems_eq_nil_of_validate hvalid hpointer)
  rw [h.split_eq]
  exact h.ne_empty

/-- A table whose name is a number sign, with a pointer to a table in it. -/
def signed : Value := objectOf
  [("#", objectOf [("id", typed "integer"), ("a_b", objectOf [("id", typed "string")]),
    ("best", pointing "#/#/a_b/id")])]

theorem problems_split_agree_signed : Spells "#/#/a_b/id" ["#", "a_b"] "id" ∧ problems "#/#/a_b/id" = [] ∧
    split "#/#/a_b/id" = ("#_a_b", "id") ∧ ∃ db, validate signed = .ok db ∧
      db.PointerAt [.name "properties", .name "#", .name "properties", .name "best"] "#/#/a_b/id" ∧
        (split "#/#/a_b/id").1 ≠ "" ∧ (split "#/#/a_b/id").2 ≠ "" := by
  have hspells : Spells "#/#/a_b/id" ["#", "a_b"] "id" := ⟨by decide, by decide, by decide⟩
  obtain ⟨db, hvalid, hpointer⟩ : ∃ db, validate signed = .ok db ∧
      db.PointerAt [.name "properties", .name "#", .name "properties", .name "best"] "#/#/a_b/id" :=
    ⟨_, rfl, .property (.root (.head _)) (.tail _ (.tail _ (.head _))) .ref⟩
  obtain ⟨hproblems, hsplit, hdocument⟩ := problems_split_agree "#/#/a_b/id"
  exact ⟨hspells, hproblems.mpr ⟨_, _, hspells⟩, (hsplit _ _ hspells).1, db, hvalid, hpointer,
    hdocument _ _ _ hvalid hpointer⟩

end Pointer

end ShapeTables.Shape
