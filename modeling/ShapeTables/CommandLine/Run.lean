import ShapeTables.CommandLine.Arguments
import ShapeTables.Load
import ShapeTables.Request
import ShapeTables.Result

/-! Runs of the command line. A run loads a document, compiles it, and prints the result or writes it to a file.
What a run does is decided before anything is written: it prints a text, writes one file and prints a line
about it, or fails with a message. -/
namespace ShapeTables.CommandLine

/-- Why a run ends with a message. -/
inductive Failure where
  | load (reason : LoadRefusal)
  | unsupported (dialect : String)
  | refused (reports : List Report)

/-- The message, with every line ended. -/
def Failure.message : Failure → String
  | .load reason => reason.message ++ "\n"
  | .unsupported dialect => Sql.Dialect.unsupportedMessage dialect ++ "\n"
  | .refused reports =>
    s!"Compilation failed with {reports.length} error(s):\n" ++
      String.join (reports.map fun r => s!"  {r.describe}\n")

/-- Why a run comes down. -/
inductive Crash where
  | load (cause : LoadBreak)
  | settings (refusal : Refusal)
  | settingsNotUtf8
  | compile (cause : Breakdown)
  /-- The tables that are to be shown hold an integer with too many digits. -/
  | longInteger
  | output (fault : FileFault)

/-- What is said of a run that came down. -/
def Crash.message : Crash → String
  | .load .nullInName => "The path holds a null character\n"
  | .load .notUtf8 => "The document is not UTF-8\n"
  | .load (.longNumeral digits) => Text.longNumeralMessage digits ++ "\n"
  | .load (.yaml failure) => s!"The document holds a value that cannot be read. {failure.message}\n"
  | .settings (.faults found) =>
    String.join (found.map fun f => s!"Setting {Location.text f.loc}: {f.cause.message}\n")
  | .settings .unhashable => "The settings cannot be read\n"
  | .settingsNotUtf8 => "The file of settings is not UTF-8\n"
  | .compile (.script e) => e.message ++ "\n"
  | .compile (.uncheckable _) => "The document cannot be checked\n"
  | .compile .unhashableType => "The type of a column is a list or a map\n"
  | .longInteger => Text.longIntegerMessage ++ "\n"
  | .output fault => fault.description ++ "\n"

inductive Outcome where
  | printed (text : String)
  | written (path : Path) (text notice : String)
  | failed (why : Failure)
  | crashed (cause : Crash)

/-- What a run can see: the octets of files and the environment. -/
structure World where
  read : Path → Except FileFault ByteArray
  environment : List (String × String)

def settingsPath : Path := ⟨"", [".env"]⟩

/-- The settings of a run, from the environment and the file of bindings, if there is one. -/
def World.settings (w : World) : Except Crash Settings := do
  let file ← match w.read settingsPath with
    | .error _ => pure none
    | .ok octets => match decode? octets with
      | some cs => pure (some cs)
      | none => throw .settingsNotUtf8
  match Settings.load { environment := w.environment, file } with
  | .ok settings => return settings
  | .error refusal => throw (.settings refusal)

def notice (c : Compiled) (path : Path) : String :=
  s!"Wrote {c.statements.length} statement(s) for {c.tables.length} table(s) to {path.text}.\n"

/-- What is done with a compiled document. -/
def deliver (args : Arguments) (c : Compiled) : Outcome :=
  match (SqlResult.ofCompiled c).render args.tables with
  | none => .crashed .longInteger
  | some text => match args.output with
    | none => .printed text
    | some path => .written (.ofText path) text (notice c (.ofText path))

def run (w : World) (args : Arguments) : Outcome :=
  match load w.read (.ofText args.document) with
  | .error (.refused reason) => .failed (.load reason)
  | .error (.broken cause) => .crashed (.load cause)
  | .ok document => match w.settings with
    | .error cause => .crashed cause
    | .ok settings => match ({ document, dialect := args.dialect } : Request).answer settings with
      | .error (.unsupported dialect) => .failed (.unsupported dialect)
      | .error (.halted (.refused problems)) => .failed (.refused (problems.map Problem.report))
      | .error (.halted (.broken cause)) => .crashed (.compile cause)
      | .ok compiled => deliver args compiled

/-- The variables of an environment, written as a name and a value with an equals sign between them and a
null character after each. -/
def bindingsOf (block : String) : List (String × String) :=
  (Text.splitOn '\x00' block).filterMap fun entry =>
    let cs := entry.toList
    match cs.dropWhile (· ≠ '=') with
    | _ :: value => some (String.ofList (cs.takeWhile (· ≠ '=')), String.ofList value)
    | [] => none

/-! ### Runs on files -/

/-- What a run leaves behind. -/
structure Ending where
  files : Files
  /-- The exit code, if the run did not come down. -/
  exit : Except Crash Nat
  out : String := ""
  err : String := ""

def Outcome.ending (files : Files) : Outcome → Ending
  | .printed text => { files, exit := .ok 0, out := text }
  | .written path text notice =>
    let change := files.write path text.toUTF8
    match change.fault with
    | none => { files := change.files, exit := .ok 0, out := notice }
    | some fault => { files := change.files, exit := .error (.output fault) }
  | .failed why => { files, exit := .ok 1, err := why.message }
  | .crashed cause => { files, exit := .error cause }

/-- The run of arguments where the files are the given ones. -/
def runOn (files : Files) (environment : List (String × String)) (args : Arguments) : Outcome :=
  run ⟨files.read, environment⟩ args

end ShapeTables.CommandLine
