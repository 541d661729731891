import ShapeTables.Text.Blank

/-! Files of bindings. A line binds a name to a value, as in `NAME=value`; blank lines and comments after a
number sign are passed over, and so is a line that is no binding. A value stands as it is up to a comment, or
in quotes, where it may have escapes and line ends. In a value, `${NAME}` stands for what the name is bound
to outside the file or further up in it, and `${NAME:-other}` for `other` if it is bound to nothing. -/
namespace ShapeTables.Bindings

open Text

/-- A name and what it is bound to, if its line has an equals sign. -/
structure Binding where
  name : String
  value : Option String
deriving DecidableEq, Repr

/-- A blank that does not end the line. -/
def isInner (c : Char) : Bool := isBlank c && c != '\n'

def skipInner (cs : List Char) : List Char := cs.dropWhile isInner

def skipLine (cs : List Char) : List Char := (cs.dropWhile (· ≠ '\n')).drop 1

/-- What follows the word export and the blanks after it, if they are at the front. -/
def skipExport (cs : List Char) : List Char :=
  let word := "export".toList
  let rest := cs.drop word.length
  if word.isPrefixOf cs && rest.head?.any isInner then skipInner rest else cs

/-- A name at the front: in single quotes, or up to a blank, an equals sign or a number sign. -/
def readName? : List Char → Option (List Char × List Char)
  | '\'' :: rest =>
    let name := rest.takeWhile (· ≠ '\'')
    match rest.dropWhile (· ≠ '\'') with
    | _ :: after => if name.isEmpty then none else some (name, after)
    | [] => none
  | cs =>
    let isName := fun c => !(isBlank c || c == '=' || c == '#')
    let name := cs.takeWhile isName
    if name.isEmpty then none else some (name, cs.dropWhile isName)

/-- The text up to the closing quote. A backslash keeps the character after it from closing. -/
def readQuoted? (quote : Char) : List Char → Option (List Char × List Char)
  | [] => none
  | '\\' :: c :: rest => (readQuoted? quote rest).map fun (text, rest) => ('\\' :: c :: text, rest)
  | c :: rest =>
    if c = quote then some ([], rest)
    else (readQuoted? quote rest).map fun (text, rest) => (c :: text, rest)

/-- The escapes of values in double quotes: the letter after the backslash and what it stands for. -/
def doubleEscapes : List (Char × Char) :=
  [('\\', '\\'), ('\'', '\''), ('\"', '\"'), ('a', '\x07'), ('b', '\x08'), ('f', '\x0c'), ('n', '\n'),
   ('r', '\r'), ('t', '\t'), ('v', '\x0b')]

def singleEscapes : List (Char × Char) := [('\\', '\\'), ('\'', '\'')]

/-- A backslash before anything that is no escape stands for itself. -/
def unescape (escapes : List (Char × Char)) : List Char → List Char
  | '\\' :: c :: rest => match escapes.lookup c with
    | some meant => meant :: unescape escapes rest
    | none => '\\' :: unescape escapes (c :: rest)
  | c :: rest => c :: unescape escapes rest
  | [] => []

/-- The text before a number sign with a blank in front of it. -/
def cutComment : List Char → List Char
  | [] => []
  | c :: rest =>
    if isBlank c && (rest.dropWhile isBlank).head? == some '#' then [] else c :: cutComment rest

def trimRight (cs : List Char) : List Char := (cs.reverse.dropWhile isBlank).reverse

/-- The value at the front and what follows it; `spaced` says whether there is a blank before it, after which a
number sign starts a comment. -/
def readValue? (spaced : Bool) : List Char → Option (List Char × List Char)
  | '\'' :: rest =>
    (readQuoted? '\'' rest).map fun (text, rest) => (unescape singleEscapes text, rest)
  | '\"' :: rest =>
    (readQuoted? '\"' rest).map fun (text, rest) => (unescape doubleEscapes text, rest)
  | cs =>
    let line := cs.takeWhile (· ≠ '\n')
    let text := if spaced && line.head? == some '#' then [] else trimRight (cutComment line)
    some (text, cs.dropWhile (· ≠ '\n'))

/-- What follows the end of a line, which only blanks and a comment may come before. -/
def endLine? (cs : List Char) : Option (List Char) :=
  match skipInner cs with
  | '#' :: rest => some (skipLine rest)
  | '\n' :: rest => some rest
  | [] => some []
  | _ => none

/-- The binding at the front, if there is one, and what follows its line. -/
def readLine (cs : List Char) : Option Binding × List Char :=
  let cs := skipExport cs
  if cs.head? = some '#' then (none, skipLine cs)
  else match readName? cs with
    | none => (none, skipLine cs)
    | some (name, rest) => match skipInner rest with
      | '=' :: rest =>
        let rest' := skipInner rest
        match readValue? (rest'.length < rest.length) rest' with
        | none => (none, skipLine rest')
        | some (value, rest) => match endLine? rest with
          | some rest => (some ⟨String.ofList name, some (String.ofList value)⟩, rest)
          | none => (none, skipLine rest)
      | rest => match endLine? rest with
        | some rest => (some ⟨String.ofList name, none⟩, rest)
        | none => (none, skipLine rest)

/-- The bindings of a file, in order. -/
def read (cs : List Char) : List Binding :=
  let line := cs.dropWhile isBlank
  if line.isEmpty then []
  else
    let (binding, rest) := readLine line
    if _h : rest.length < cs.length then binding.toList ++ read rest else binding.toList
termination_by cs.length

/-! ### Expansion -/

/-- What names are bound to; a name may be bound to nothing. -/
abbrev Scope := List (String × Option String)

/-- Binds a name, in the place that it has already or at the end. -/
def Scope.bind (scope : Scope) (name : String) (value : Option String) : Scope :=
  match scope with
  | [] => [(name, value)]
  | (n, v) :: rest => if n = name then (n, value) :: rest else (n, v) :: Scope.bind rest name value

/-- What stands for a value at the front of a text: its name, its substitute, and its length. -/
def placeholder? : List Char → Option (List Char × List Char × Nat)
  | '$' :: '\x7b' :: cs =>
    let inName := fun c => c != '}' && c != ':'
    let name := cs.takeWhile inName
    match cs.dropWhile inName with
    | '}' :: _ => some (name, [], name.length + 3)
    | ':' :: '-' :: rest =>
      let other := rest.takeWhile (· ≠ '}')
      if other.length < rest.length then some (name, other, name.length + other.length + 5) else none
    | _ => none
  | _ => none

/-- The text with all placeholders filled in, the first `skip` characters left out. -/
def fillFrom (scope : Scope) (skip : Nat) : List Char → List Char
  | [] => []
  | c :: rest => match skip with
    | skip + 1 => fillFrom scope skip rest
    | 0 => match placeholder? (c :: rest) with
      | some (name, other, length) =>
        let value := match scope.lookup (String.ofList name) with
          | some value => (value.getD "").toList
          | none => other
        value ++ fillFrom scope (length - 1) rest
      | none => c :: fillFrom scope 0 rest

def fill (scope : Scope) (s : String) : String := String.ofList (fillFrom scope 0 s.toList)

/-- The scope after bindings, `outer` being what names are bound to outside the file. -/
def bindAll (outer : Scope) : List Binding → Scope :=
  List.foldl (fun scope b => scope.bind b.name (b.value.map (fill (scope ++ outer)))) []

/-- What the names of a file are bound to. -/
def scopeOf (outer : Scope) (cs : List Char) : Scope := bindAll outer (read cs)

end ShapeTables.Bindings
