import ShapeTables.Proofs.Findings
import ShapeTables.Proofs.Resolution

/-! Which documents are answered. A compilation yields tables or says what is wrong, except of two kinds of
documents: those of which it is not said whether they are schemas, and schemas with a column whose type is a list,
a map or a set. -/
namespace ShapeTables

open MetaSchema (Unanswered draftOf HasText)
open Shape (HasCompoundType read_speaks read_trips_iff)

variable {document : Value} {problems : List Problem} {cause : Breakdown}

/-- Documents that are compiled to tables or to problems, of which there is at least one. -/
def Answered (document : Value) : Prop :=
  (∃ tables, compile document = .ok tables) ∨
    ∃ problems, problems ≠ [] ∧ compile document = .error (.refused problems)

/-! ### Problems of stages -/

theorem checkSchema_refuses (h : checkSchema document = .error (.refused problems)) : problems ≠ [] := by
  unfold checkSchema at h
  split at h
  · cases h
  · cases h
    simp
  · cases h

theorem readShape_refuses (h : readShape document = .error (.refused problems)) : problems ≠ [] := by
  unfold readShape at h
  split at h
  · cases h
  · next found hread =>
    cases h
    rintro hnil
    rw [List.map_eq_nil_iff] at hnil
    exact read_speaks document (hnil ▸ hread)
  · cases h

theorem stopAt_refuses {found : List Problem} (h : stopAt found = .error (.refused problems)) :
    problems ≠ [] := by
  unfold stopAt at h
  split at h
  · cases h
  · next hfound =>
    cases h
    exact fun hnil => hfound (List.isEmpty_iff.mpr hnil)

theorem resolveAll_refuses {tables : List Flat.Table} (h : resolveAll tables = .error (.refused problems)) :
    problems ≠ [] :=
  (Flat.resolve_eq_error_iff.mp (resolveAll_eq_refused_iff.mp h)).2

/-- A document that is refused has at least one problem. -/
theorem compile_refuses (h : compile document = .error (.refused problems)) : problems ≠ [] := by
  rcases compile_eq_error_iff.mp h with hschema | ⟨-, hread | ⟨db, -, hcheck | ⟨-, hresolve⟩⟩⟩
  · exact checkSchema_refuses hschema
  · exact readShape_refuses hread
  · exact stopAt_refuses hcheck
  · exact resolveAll_refuses hresolve

/-! ### Breakdowns -/

theorem checkSchema_breaks_iff : (∃ cause, checkSchema document = .error (.broken cause)) ↔
    Unanswered document := by
  rw [← not_iff_not, ← MetaSchema.exists_isSchema_iff, checkSchema]
  rcases MetaSchema.isSchema document with cause | (_ | _) <;> simp

theorem readShape_breaks_iff : (∃ cause, readShape document = .error (.broken cause)) ↔
    HasCompoundType document := by
  rw [← read_trips_iff, readShape, Reading.Trips]
  rcases Shape.read document with (found | _) | db <;> simp

theorem checkShape_ne_broken (db : Shape.Database) : checkShape db ≠ .error (.broken cause) := by
  unfold checkShape stopAt
  split <;> simp

theorem resolveAll_ne_broken (tables : List Flat.Table) : resolveAll tables ≠ .error (.broken cause) := by
  unfold resolveAll
  split <;> simp

/-- Only the check of a document and the reading of its shape are ever brought down. -/
theorem compile_breaks_iff : (∃ cause, compile document = .error (.broken cause)) ↔
    Unanswered document ∨ MetaSchema.isSchema document = .ok true ∧ HasCompoundType document := by
  rw [← checkSchema_breaks_iff, ← readShape_breaks_iff]
  constructor
  · rintro ⟨cause, h⟩
    rcases compile_eq_error_iff.mp h with hschema | ⟨hschema, hread | ⟨db, -, hcheck | ⟨-, hresolve⟩⟩⟩
    · exact .inl ⟨cause, hschema⟩
    · exact .inr ⟨hschema, cause, hread⟩
    · exact absurd hcheck (checkShape_ne_broken db)
    · exact absurd hresolve (resolveAll_ne_broken _)
  · rintro (⟨cause, hschema⟩ | ⟨hschema, cause, hread⟩)
    · exact ⟨cause, compile_eq_error_iff.mpr (.inl hschema)⟩
    · exact ⟨cause, compile_eq_error_iff.mpr (.inr ⟨hschema, .inl hread⟩)⟩

theorem answered_iff_not_broken : Answered document ↔ ¬∃ cause, compile document = .error (.broken cause) := by
  unfold Answered
  rcases hcompile : compile document with (problems | cause) | tables
  · have hproblems := compile_refuses hcompile
    simpa using hproblems
  · simp
  · simp

/-- A document that names its draft, can be written out, has no text that is no question as a pattern and no
column whose type is a list, a map or a set is answered. -/
theorem answered_of_plain (hdraft : ∀ members, document = .map members → ∃ d, draftOf members = .ok d)
    (hwritable : document.isWritable)
    (hpattern : ∀ s, HasText s document → ∀ fault, Pattern.check s = .error fault → fault = .malformed)
    (htype : ¬HasCompoundType document) : Answered document := by
  rw [answered_iff_not_broken, compile_breaks_iff, not_or, not_and]
  exact ⟨MetaSchema.not_unanswered hdraft hwritable hpattern, fun _ => htype⟩

/-- A document is answered unless it is not said whether it is a schema, or it is one that has a column whose type
is a list, a map or a set. -/
theorem answered_iff (document : Value) : Answered document ↔
    ¬Unanswered document ∧ (MetaSchema.isSchema document = .ok true → ¬HasCompoundType document) := by
  rw [answered_iff_not_broken, compile_breaks_iff, not_or, not_and]

/-- Users whose names may be null. -/
def nullableName : Value := objectOf
  [("users", objectOf [("name", .object [("type", .texts ["string", "null"])])])]

/-- The document is a schema, but the list of types of a column brings its compilation down. -/
theorem nullableName_not_answered : MetaSchema.isSchema nullableName = .ok true ∧
    compile nullableName = .error (.broken .unhashableType) ∧ ¬Answered nullableName := by
  refine ⟨rfl, rfl, ?_⟩
  rintro (⟨tables, h⟩ | ⟨problems, -, h⟩)
  · cases h
  · cases h

end ShapeTables
