import ShapeTables.Files
import ShapeTables.Json.Reader
import ShapeTables.Text.Lowercase
import ShapeTables.Yaml.Reader

/-! Loading documents. The suffix of a file's name says whether it holds JSON or YAML; the text of the file is
UTF-8, and every way of ending a line counts as a line feed. Most failures are reported as a refusal of the
file; a few texts bring the reading itself down (`LoadError.broken`). -/
namespace ShapeTables

inductive Notation where
  | json
  | yaml
deriving DecidableEq, Repr

/-- Why a file is no document. -/
inductive LoadRefusal where
  | unsupported (type : String)
  | notFound (path : Path)
  | unreadable (path : Path) (fault : FileFault)
  | malformedJson (path : Path) (fault : String)
  | malformedYaml (path : Path)
deriving DecidableEq, Repr

def LoadRefusal.message : LoadRefusal → String
  | .unsupported type => s!"Unsupported document type '{type}'; use .json, .yaml or .yml"
  | .notFound path => s!"Document not found: {path.text}"
  | .unreadable path fault =>
    s!"Unable to read {path.text}: {fault.description}: {Text.quoted path.text}"
  | .malformedJson path fault => s!"Failed to parse {path.text}: {fault}"
  | .malformedYaml path => s!"Failed to parse {path.text}: malformed YAML"

/-- Why reading a file comes down. -/
inductive LoadBreak where
  | nullInName
  | notUtf8
  | longNumeral (digits : Nat)
  | yaml (failure : Yaml.Failure)
deriving DecidableEq, Repr

inductive LoadError where
  | refused (reason : LoadRefusal)
  | broken (cause : LoadBreak)
deriving DecidableEq, Repr

/-- The notations by suffix. -/
def Notation.bySuffix : List (String × Notation) := [(".json", .json), (".yaml", .yaml), (".yml", .yaml)]

/-- The notation of a file by its name, without regard to case. -/
def Notation.of (path : Path) : Except LoadError Notation :=
  let suffix := Text.lower path.suffix
  match bySuffix.lookup suffix with
  | some found => .ok found
  | none => .error (.refused (.unsupported (if suffix.isEmpty then path.name else suffix)))

/-- The characters of UTF-8 octets, with line feeds for all line ends. -/
def decode? (octets : ByteArray) : Option (List Char) :=
  (String.fromUTF8? octets).map fun s => Text.unifyLineEnds s.toList

def readJson (path : Path) (cs : List Char) : Except LoadError Value :=
  match Json.read cs with
  | .ok v => .ok v
  | .error (.longNumeral digits) => .error (.broken (.longNumeral digits))
  | .error failure => .error (.refused (.malformedJson path (failure.message cs)))

def readYaml (path : Path) (cs : List Char) : Except LoadError Value :=
  match Yaml.read cs with
  | .ok v => .ok v
  | .error .malformed => .error (.refused (.malformedYaml path))
  | .error failure => .error (.broken (.yaml failure))

/-- The document at a path, `read` giving the octets of files. -/
def load (read : Path → Except FileFault ByteArray) (path : Path) : Except LoadError Value := do
  let found ← Notation.of path
  match read path with
  | .error .missing => throw (.refused (.notFound path))
  | .error .nullInName => throw (.broken .nullInName)
  | .error fault => throw (.refused (.unreadable path fault))
  | .ok octets => match decode? octets with
    | none => throw (.broken .notUtf8)
    | some cs => match found with
      | .json => readJson path cs
      | .yaml => readYaml path cs

end ShapeTables
