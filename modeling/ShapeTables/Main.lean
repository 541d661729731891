import ShapeTables.CommandLine.Run

/-! The command line. What a run does is decided by `CommandLine.run`; here files are read and written, and
texts are printed. -/
namespace ShapeTables.CommandLine

def usageText : String :=
  "usage: shape-tables [-h] [--dialect DIALECT] [--output OUTPUT] [--tables] document\n"

def helpText : String :=
  usageText ++ "\nCompile a JSON or YAML shape document into statements that create its tables.\n\n" ++
    "  --dialect DIALECT  target dialect (" ++ ", ".intercalate (Sql.Dialect.all.map Sql.Dialect.name) ++ ")\n" ++
    "  --output OUTPUT    file to write to instead of the standard output\n" ++
    "  --tables           print the resolved tables as JSON\n"

/-- The fault that an error of the system stands for. -/
def faultOf : IO.Error → FileFault
  | .noFileOrDirectory .. => .missing
  | .alreadyExists .. => .exists
  | .inappropriateType _ 21 _ => .isDirectory
  | .inappropriateType .. => .notDirectory
  | .invalidArgument .. => .longName
  | _ => .denied

def readOctets (path : Path) : IO (Except FileFault ByteArray) := do
  try
    return .ok (← IO.FS.readBinFile path.text)
  catch e => return .error (faultOf e)

/-- The variables of this process. -/
def environment : IO (List (String × String)) := do
  try
    let block ← IO.FS.readBinFile "/proc/self/environ"
    return bindingsOf ((String.fromUTF8? block).getD "")
  catch _ => return []

/-- A world in which a document and the file of settings can be read. -/
def worldOf (document : Path) : IO World := do
  let octets ← readOctets document
  let settings ← readOctets settingsPath
  return ⟨fun path =>
    if path = document then octets else if path = settingsPath then settings else .error .missing,
    ← environment⟩

def writeFile (path : Path) (text : String) : IO (Option FileFault) := do
  try
    IO.FS.createDirAll { path with parts := path.parts.dropLast }.text
    IO.FS.writeBinFile path.text text.toUTF8
    return none
  catch e => return some (faultOf e)

def perform : Outcome → IO UInt32
  | .printed text => do
    IO.print text
    return 0
  | .written path text notice => do
    match ← writeFile path text with
    | none =>
      IO.print notice
      return 0
    | some fault =>
      IO.eprint (Crash.output fault).message
      return 1
  | .failed why => do
    IO.eprint why.message
    return 1
  | .crashed cause => do
    IO.eprint cause.message
    return 1

end ShapeTables.CommandLine

open ShapeTables ShapeTables.CommandLine in
def main (argv : List String) : IO UInt32 := do
  match parse argv with
  | .error .help =>
    IO.print helpText
    return Exit.help.code.toUInt32
  | .error .usage =>
    IO.eprint usageText
    return Exit.usage.code.toUInt32
  | .ok args => perform (run (← worldOf (.ofText args.document)) args)
