import ShapeTables.Flat.Flatten
import ShapeTables.Flat.Resolve
import ShapeTables.MetaSchema.Check
import ShapeTables.Shape.Reader
import ShapeTables.Shape.Rules
import ShapeTables.Sql.Script

/-! Compiling documents. A document passes three gates, each of which stops it with problems: it must be a
schema, describe a shape, and keep the rules of shapes. The shape is then flattened and its references are
resolved. A few documents bring the compilation itself down (`Breakdown`); they are told apart from documents
that are refused. -/
namespace ShapeTables

/-- Why a question about a document has no answer. -/
inductive Breakdown where
  | uncheckable (cause : MetaSchema.Uncheckable)
  | unhashableType
  | script (error : Sql.ScriptError)
deriving DecidableEq, Repr

/-- Why there is no result: the document is at fault, or the compilation came down. -/
inductive Halt where
  | refused (problems : List Problem)
  | broken (cause : Breakdown)
deriving DecidableEq, Repr

abbrev Outcome := Except Halt

/-- Problems stop a document, the lack of them does not. -/
def stopAt (problems : List Problem) : Outcome Unit :=
  if problems.isEmpty then .ok () else .error (.refused problems)

/-- The first gate: a document is a schema. -/
def checkSchema (document : Value) : Outcome Unit :=
  match MetaSchema.isSchema document with
  | .ok true => .ok ()
  | .ok false => .error (.refused [⟨[.name "#"], .malformed⟩])
  | .error cause => .error (.broken (.uncheckable cause))

/-- The second gate: a document describes a shape. The problems are located in the document. -/
def readShape (document : Value) : Outcome Shape.Database :=
  match Shape.read document with
  | .ok db => .ok db
  | .error (.faults found) => .error (.refused (found.map fun f => ⟨Shape.untag f.loc, .form f.cause⟩))
  | .error .unhashable => .error (.broken .unhashableType)

/-- The third gate: a shape keeps its rules. -/
def checkShape (db : Shape.Database) : Outcome Unit := stopAt db.problems

/-- The shape of a document that passes all gates. -/
def validate (document : Value) : Outcome Shape.Database := do
  checkSchema document
  let db ← readShape document
  checkShape db
  return db

/-- The flat tables of a shape with their references resolved. -/
def resolveAll (tables : List Flat.Table) : Outcome (List Flat.ResolvedTable) :=
  match Flat.resolve tables with
  | .ok tables => .ok tables
  | .error problems => .error (.refused problems)

/-- The resolved tables of a document. -/
def compile (document : Value) : Outcome (List Flat.ResolvedTable) := do
  let db ← validate document
  resolveAll (Flat.flatten db)

/-- A compiled document with the statements that create it. -/
structure Compiled where
  dialect : Sql.Dialect
  statements : List String
  tables : List Flat.ResolvedTable
deriving DecidableEq, Repr

/-- The texts of the statements that create resolved tables. -/
def generate (style : Sql.Style) (tables : List Flat.ResolvedTable) : Outcome (List String) :=
  match Sql.generate style tables with
  | .ok statements => .ok statements
  | .error e => .error (.broken (.script e))

/-- The statements for a document, in a given style. -/
def generateSql (style : Sql.Style) (document : Value) : Outcome Compiled := do
  let tables ← compile document
  let statements ← generate style tables
  return ⟨style.dialect, statements, tables⟩

end ShapeTables
