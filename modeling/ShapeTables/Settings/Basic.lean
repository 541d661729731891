import ShapeTables.Reading
import ShapeTables.Settings.Bindings
import ShapeTables.Sql.Statement
import ShapeTables.Text.Lowercase
import ShapeTables.Text.Segments

/-! Settings. A setting is given as an argument, else bound in the environment, else bound in a file, else it
has its default; names are told apart without regard to case. Texts are accepted wherever they
can be read as what the setting needs. -/
namespace ShapeTables

structure Settings where
  appName : String := "Shape SQL Compiler"
  logLevel : String := "INFO"
  dialect : Sql.Dialect := .postgresql
  /-- The length of string columns. -/
  stringLength : Nat := 255
  /-- The sites whose pages may send requests. -/
  origins : List String :=
    ["http://localhost:5173", "http://127.0.0.1:5173", "http://localhost:3000", "http://127.0.0.1:3000"]
  one_le_stringLength : 1 ≤ stringLength := by decide
  stringLength_le : stringLength ≤ 65535 := by decide
deriving DecidableEq, Repr

namespace Settings

open Reading

/-- The dialects by the names that a setting may have after it was brought to lower case. Only one dialect is
known by other names here. -/
def dialects : List (String × Sql.Dialect) :=
  [("postgresql", .postgresql), ("mysql", .mysql), ("pg", .postgresql), ("postgres", .postgresql),
   ("", .postgresql)]

def readDialect : Value → Reading Sql.Dialect
  | .text s => match dialects.lookup (Text.lower (Text.trim s)) with
    | some d => .ok d
    | none => fault (.mismatch "^(postgresql|mysql)$")
  | _ => fault .notText

/-- A length of string columns. -/
abbrev Length := { n : Nat // 1 ≤ n ∧ n ≤ 65535 }

def readLength (v : Value) : Reading Length :=
  match int v with
  | .error e => .error e
  | .ok n =>
    if h : n < 1 then fault (.below 1)
    else if h' : 65535 < n then fault (.above 65535)
    else .ok ⟨n.toNat, by omega, by omega⟩

/-- The sites of a text that lists them, with commas between them. -/
def splitOrigins (s : String) : List String :=
  ((Text.splitOn ',' s).map Text.trim).filter fun origin => !origin.isEmpty

def readOrigins : Value → Reading (List String)
  | .text s => .ok (splitOrigins s)
  | v => list text v

/-- Settings from the fields that are there. -/
def read (members : List (Scalar × Value)) : Reading Settings :=
  let default : Settings := {}
  (both (optional members "app_name" default.appName text)
    (both (optional members "log_level" default.logLevel text)
      (both (optional members "default_dialect" default.dialect readDialect)
        (both (optional members "string_column_length" ⟨default.stringLength, by decide⟩ readLength)
          (optional members "frontend_origins" default.origins readOrigins))))).map
    fun (appName, logLevel, dialect, length, origins) =>
      ⟨appName, logLevel, dialect, length.1, origins, length.2.1, length.2.2⟩

/-- The names of the fields. -/
def fields : List String :=
  ["app_name", "log_level", "default_dialect", "string_column_length", "frontend_origins"]

/-- Where settings come from. -/
structure Sources where
  given : List (Scalar × Value) := []
  environment : List (String × String) := []
  /-- The text of the file of bindings. -/
  file : Option (List Char) := none

/-- What a name is bound to, by the last binding whose name has this lower-case form. -/
def boundTo (scope : Bindings.Scope) (name : String) : Option String :=
  ((scope.reverse.find? fun (n, _) => Text.lower n = name).bind Prod.snd)

namespace Sources

def scope (s : Sources) : Bindings.Scope := s.environment.map fun (name, value) => (name, some value)

def fileScope (s : Sources) : Bindings.Scope :=
  match s.file with
  | some cs => Bindings.scopeOf s.scope cs
  | none => []

/-- The argument for a field: the first one whose name has the field's as its lower-case form. -/
def given? (s : Sources) (name : String) : Option Value :=
  (s.given.find? fun (key, _) => match key with
    | .text n => Text.lower n = name
    | _ => false).map Prod.snd

/-- The value for a field, from the first source that has one. -/
def field? (s : Sources) (name : String) : Option Value :=
  match s.given? name with
  | some v => some v
  | none => match boundTo s.scope name with
    | some value => some (.text value)
    | none => (boundTo s.fileScope name).map .text

def members (s : Sources) : List (Scalar × Value) :=
  fields.filterMap fun name => (s.field? name).map fun v => (.text name, v)

end Sources

def load (s : Sources) : Reading Settings := read s.members

/-- The style of statements where a request names no dialect or one of its own. -/
def style (s : Settings) (dialect : Sql.Dialect) : Sql.Style := ⟨dialect, s.stringLength⟩

/-- The settings as a map. -/
def toValue (s : Settings) : Value :=
  .object [("app_name", .text s.appName), ("log_level", .text s.logLevel),
    ("default_dialect", .text s.dialect.name), ("string_column_length", .int s.stringLength),
    ("frontend_origins", .texts s.origins)]

end Settings

end ShapeTables
