import ShapeTables.Text.Quoted
import ShapeTables.Text.Segments

/-! Paths and files. A path is normal: it has neither empty nor dot components. Files are those below one
directory, which relative paths start from. Around it there is nothing but the directories that it is in, up to
the uppermost one, which absolute paths start from. -/
namespace ShapeTables

/-! ### Paths -/

structure Path where
  /-- The slashes in front of an absolute path. -/
  root : String
  parts : List String
deriving DecidableEq, Repr

namespace Path

/-- Two slashes in front are kept, any other number of them counts as one. -/
def rootOf (cs : List Char) : String :=
  match (cs.takeWhile (· = '/')).length with
  | 0 => ""
  | 2 => "//"
  | _ => "/"

def ofText (s : String) : Path :=
  ⟨rootOf s.toList, (Text.splitOn '/' s).filter fun part => !part.isEmpty && part != "."⟩

def text (p : Path) : String :=
  if p.root.isEmpty ∧ p.parts.isEmpty then "." else p.root ++ "/".intercalate p.parts

def name (p : Path) : String := p.parts.getLast?.getD ""

/-- The last dot of the name with what follows it, if neither is the whole name nor the dot its end. -/
def suffix (p : Path) : String :=
  let cs := p.name.toList
  let after := (cs.reverse.takeWhile (· ≠ '.')).reverse
  if after.isEmpty ∨ cs.length ≤ after.length + 1 then "" else String.ofList ('.' :: after)

end Path

/-! ### Files -/

inductive Entry where
  | file (octets : ByteArray)
  | directory
deriving BEq

/-- Files and directories by the components that lead to them: from the directory of the files, with leading
double dots for the directories around it, or from the uppermost directory, which is a slash. The directories
on the way to an entry need not be entries. -/
abbrev Files := List (List String × Entry)

/-- Why a file cannot be read or written. -/
inductive FileFault where
  | missing
  | isDirectory
  | notDirectory
  | exists
  | longName
  | denied
  | nullInName
deriving DecidableEq, Repr

/-- The number and the name that the faults of a system call go by. -/
def FileFault.description : FileFault → String
  | .missing => "[Errno 2] No such file or directory"
  | .isDirectory => "[Errno 21] Is a directory"
  | .notDirectory => "[Errno 20] Not a directory"
  | .exists => "[Errno 17] File exists"
  | .longName => "[Errno 36] File name too long"
  | .denied => "[Errno 13] Permission denied"
  | .nullInName => "embedded null byte"

/-- Where a path leads to. -/
inductive Place where
  | directory
  | file (path : List String) (octets : ByteArray)
  /-- Nothing is there, but the directory around it is. -/
  | vacant (path : List String)
  | unreachable (fault : FileFault)

namespace Files

/-- The components that lead to the uppermost directory. -/
def top : List String := ["/"]

/-- Whether components lead to the directory of the files, to one that it is in, or to the uppermost one. -/
def isAround (path : List String) : Bool := path.all (· = "..") || path = top

/-- The components that lead to the directory around a directory. -/
def up (path : List String) : List String :=
  if path.all (· = "..") then path ++ [".."] else if path = top then top else path.dropLast

def entry? (files : Files) (path : List String) : Option Entry :=
  match files.lookup path with
  | some e => some e
  | none => if isAround path ∨ files.any fun (p, _) => path.isPrefixOf p then some .directory else none

/-- Puts an entry in the place of the one with its path, or adds it. -/
def put (files : Files) (path : List String) (e : Entry) : Files :=
  match files with
  | [] => [(path, e)]
  | (p, old) :: rest => if p = path then (p, e) :: rest else (p, old) :: put rest path e

/-- The most octets of a component and of a path. -/
def maxName : Nat := 255

def maxPath : Nat := 4095

/-- Follows components from a directory on. -/
def walk (files : Files) (here : List String) : List String → Place
  | [] => .directory
  | name :: rest =>
    if name = ".." then walk files (up here) rest
    else if maxName < name.utf8ByteSize then .unreachable .longName
    else match entry? files (here ++ [name]) with
      | some .directory => walk files (here ++ [name]) rest
      | some (.file octets) =>
        if rest.isEmpty then .file (here ++ [name]) octets else .unreachable .notDirectory
      | none => if rest.isEmpty then .vacant (here ++ [name]) else .unreachable .missing

def find (files : Files) (path : Path) : Place :=
  if path.text.toList.contains '\x00' then .unreachable .nullInName
  else if maxPath < path.text.utf8ByteSize then .unreachable .longName
  else files.walk (if path.root.isEmpty then [] else top) path.parts

def read (files : Files) (path : Path) : Except FileFault ByteArray :=
  match files.find path with
  | .file _ octets => .ok octets
  | .directory => .error .isDirectory
  | .vacant _ => .error .missing
  | .unreachable fault => .error fault

/-- What a change of files has come to. It may stop at a fault, and what was done before stays done. -/
structure Change where
  files : Files
  fault : Option FileFault := none

/-- Makes a directory where there is none; the directory around it has to be there. -/
def makeDirectory (files : Files) (path : Path) : Change :=
  match files.find path with
  | .directory => { files }
  | .file .. => { files, fault := some .exists }
  | .vacant place => { files := files.put place .directory }
  | .unreachable fault => { files, fault := some fault }

/-- Makes a directory and those around it, given the components in reverse. -/
def makeDirectories (files : Files) (root : String) : List String → Change
  | [] => { files }
  | name :: above =>
    let path : Path := ⟨root, (name :: above).reverse⟩
    let change := files.makeDirectory path
    if change.fault = some .missing then
      let around := makeDirectories files root above
      if around.fault.isNone then around.files.makeDirectory path else around
    else change

/-- Writes a file, after the directories around it are made. -/
def write (files : Files) (path : Path) (octets : ByteArray) : Change :=
  let around := files.makeDirectories path.root path.parts.dropLast.reverse
  if around.fault.isNone then
    match around.files.find path with
    | .file place _ | .vacant place => { files := around.files.put place (.file octets) }
    | .directory => { around with fault := some .isDirectory }
    | .unreachable fault => { around with fault := some fault }
  else around

end Files

end ShapeTables
