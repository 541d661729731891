import ShapeTables.Compile
import ShapeTables.Proofs.ShapeReading

/-! The stages of a compilation. A stage succeeds when the stages before it do, so that the tables of a document
are those of its shape; a document that is refused at a stage has at least one problem. -/
namespace ShapeTables

section Bind

variable {ε α β : Type} {x : Except ε α} {f : α → Except ε β}

theorem bind_eq_ok_iff {b : β} : x >>= f = .ok b ↔ ∃ a, x = .ok a ∧ f a = .ok b := by
  cases x <;> simp [bind, Except.bind]

theorem bind_eq_error_iff {e : ε} : x >>= f = .error e ↔ x = .error e ∨ ∃ a, x = .ok a ∧ f a = .error e := by
  cases x <;> simp [bind, Except.bind]

end Bind

variable {document : Value}

theorem checkSchema_eq_ok_iff {u : Unit} : checkSchema document = .ok u ↔
    MetaSchema.isSchema document = .ok true := by
  unfold checkSchema
  split <;> simp [*]

theorem readShape_eq_ok_iff {db : Shape.Database} : readShape document = .ok db ↔
    Shape.read document = .ok db := by
  unfold readShape
  split <;> simp [*]

theorem checkShape_eq_ok_iff {db : Shape.Database} {u : Unit} : checkShape db = .ok u ↔ db.problems = [] := by
  rw [checkShape, stopAt]
  cases db.problems <;> simp

theorem validate_eq_ok_iff {db : Shape.Database} : validate document = .ok db ↔
    MetaSchema.isSchema document = .ok true ∧ Shape.read document = .ok db ∧ db.problems = [] := by
  simp only [validate, bind_eq_ok_iff, checkSchema_eq_ok_iff, readShape_eq_ok_iff, checkShape_eq_ok_iff, pure,
    Except.pure, Except.ok.injEq]
  constructor
  · rintro ⟨-, hschema, found, hread, -, hproblems, rfl⟩
    exact ⟨hschema, hread, hproblems⟩
  · rintro ⟨hschema, hread, hproblems⟩
    exact ⟨(), hschema, db, hread, (), hproblems, rfl⟩

theorem resolveAll_eq_refused_iff {tables : List Flat.Table} {problems : List Problem} :
    resolveAll tables = .error (.refused problems) ↔ Flat.resolve tables = .error problems := by
  unfold resolveAll
  cases Flat.resolve tables <;> simp

theorem resolveAll_eq_ok_iff {tables : List Flat.Table} {resolved : List Flat.ResolvedTable} :
    resolveAll tables = .ok resolved ↔ Flat.resolve tables = .ok resolved := by
  unfold resolveAll
  split <;> simp [*]

theorem compile_eq_ok_iff {tables : List Flat.ResolvedTable} : compile document = .ok tables ↔
    ∃ db, validate document = .ok db ∧ Flat.resolve (Flat.flatten db) = .ok tables := by
  simp only [compile, bind_eq_ok_iff, resolveAll_eq_ok_iff]

/-- A compilation stops at one of the stages, the stages before it having succeeded. -/
theorem compile_eq_error_iff {e : Halt} : compile document = .error e ↔ checkSchema document = .error e ∨
    MetaSchema.isSchema document = .ok true ∧ (readShape document = .error e ∨
      ∃ db, Shape.read document = .ok db ∧ (checkShape db = .error e ∨
        db.problems = [] ∧ resolveAll (Flat.flatten db) = .error e)) := by
  rw [compile, bind_eq_error_iff]
  simp only [validate_eq_ok_iff]
  simp only [validate, bind_eq_error_iff, checkSchema_eq_ok_iff, readShape_eq_ok_iff, pure, Except.pure, reduceCtorEq,
    and_false, exists_false, or_false, exists_const]
  constructor
  · rintro ((hschema | ⟨hschema, hread | ⟨db, hread, hcheck⟩⟩) | ⟨db, ⟨hschema, hread, hproblems⟩, hresolve⟩)
    · exact .inl hschema
    · exact .inr ⟨hschema, .inl hread⟩
    · exact .inr ⟨hschema, .inr ⟨db, hread, .inl hcheck⟩⟩
    · exact .inr ⟨hschema, .inr ⟨db, hread, .inr ⟨hproblems, hresolve⟩⟩⟩
  · rintro (hschema | ⟨hschema, hread | ⟨db, hread, hcheck | ⟨hproblems, hresolve⟩⟩⟩)
    · exact .inl (.inl hschema)
    · exact .inl (.inr ⟨hschema, .inl hread⟩)
    · exact .inl (.inr ⟨hschema, .inr ⟨db, hread, hcheck⟩⟩)
    · exact .inr ⟨db, ⟨hschema, hread, hproblems⟩, hresolve⟩

/-! ### A document -/

/-- A table with the given properties, or a document with the given tables. -/
def objectOf (properties : List (String × Value)) : Value :=
  .object [("type", .text "object"), ("properties", .object properties)]

def arrayOf (items : Value) : Value := .object [("type", .text "array"), ("items", items)]

def typed (type : String) : Value := .object [("type", .text type)]

def pointing (pointer : String) : Value := .object [("$ref", .text pointer)]

/-- Posts by users, with comments. -/
def blog : Value := objectOf
  [("users", objectOf [("id", typed "integer"), ("name", typed "string")]),
   ("posts", objectOf [("id", typed "integer"), ("author", pointing "#/users/name"),
     ("comments", arrayOf (objectOf [("text", typed "string")]))])]

end ShapeTables
