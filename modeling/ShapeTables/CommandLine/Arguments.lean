import ShapeTables.Text.Digits

/-! Arguments of the command line. There is one document, and there are options, which may be cut short as long
as they can be told apart; the value of an option follows it or stands after an equals sign. After two dashes
everything is an argument. What is wrong shows in the order of the words, except that an option that is cut too
short is found first. -/
namespace ShapeTables.CommandLine

open Text

structure Arguments where
  document : String
  dialect : Option String
  output : Option String
  /-- Whether tables are wanted instead of statements. -/
  tables : Bool
deriving DecidableEq, Repr

/-- Why there are no arguments to go on with. -/
inductive Exit where
  | help
  | usage
deriving DecidableEq, Repr

def Exit.code : Exit → Nat
  | .help => 0
  | .usage => 2

inductive Switch where
  | help
  | dialect
  | output
  | tables
deriving DecidableEq, Repr

def Switch.byName : List (String × Switch) :=
  [("--help", .help), ("--dialect", .dialect), ("--output", .output), ("--tables", .tables)]

/-- What a word of the command line is. -/
inductive Word where
  | argument (s : String)
  | switch (s : Switch) (value : Option String)
  /-- The short form of help with what stands right after it. -/
  | shortHelp (rest : List Char)
  | unknown
  | separator
deriving DecidableEq, Repr

/-- Negative numbers are arguments, with the digits of any script and also with a line feed at the end. -/
def isNegativeNumber (cs : List Char) : Bool :=
  match if cs.getLast? = some '\n' then cs.dropLast else cs with
  | '-' :: cs =>
    let whole := cs.takeWhile isDigitOfAnyScript
    match cs.dropWhile isDigitOfAnyScript with
    | [] => !whole.isEmpty
    | '.' :: part => !part.isEmpty && part.all isDigitOfAnyScript
    | _ => false
  | _ => false

/-- A word that starts with two dashes: the option that it starts the name of, if it is the only one. -/
def longWord (cs : List Char) : Except Exit (Option Word) :=
  let name := cs.takeWhile (· ≠ '=')
  let value := match cs.dropWhile (· ≠ '=') with
    | _ :: value => some (String.ofList value)
    | [] => none
  match Switch.byName.filter fun (n, _) => name.isPrefixOf n.toList with
  | [] => .ok none
  | [(_, s)] => .ok (some (.switch s value))
  | _ => .error .usage

/-- A word in front of the separator. -/
def word (s : String) : Except Exit Word :=
  match s.toList with
  | [] | ['-'] => .ok (.argument s)
  | c :: rest =>
    if c ≠ '-' then .ok (.argument s)
    else do
      let known ← match rest with
        | '-' :: _ => longWord (c :: rest)
        | 'h' :: rest => .ok (some (.shortHelp rest))
        | _ => .ok none
      match known with
      | some w => return w
      | none =>
        if isNegativeNumber (c :: rest) || s.contains ' ' then return .argument s else return .unknown

def words : List String → Except Exit (List Word)
  | [] => .ok []
  | "--" :: rest => .ok (.separator :: rest.map .argument)
  | s :: rest => do
    let w ← word s
    let ws ← words rest
    return w :: ws

/-- What comes of the short form of help, which can only be repeated; an equals sign may stand before the
repetitions. -/
def shortHelpExit (rest : List Char) : Exit :=
  match rest with
  | '=' :: repeated => if repeated.isEmpty ∨ repeated.any (· ≠ 'h') then .usage else .help
  | repeated => if repeated.any (· ≠ 'h') then .usage else .help

/-- What the words so far have given. -/
structure Given where
  document : Option String := none
  dialect : Option String := none
  output : Option String := none
  tables : Bool := false
  /-- Whether there was a word that is not needed. -/
  surplus : Bool := false

/-- Takes the words in order; `afterDocument` says that the last word was the document. -/
def take (g : Given) (afterDocument : Bool) : List Word → Except Exit Given
  | [] => .ok g
  | .argument s :: rest => match g.document with
    | none => take { g with document := some s } true rest
    | some _ => take { g with surplus := true } false rest
  | .separator :: rest =>
    take { g with surplus := g.surplus || (g.document.isSome && !afterDocument) } false rest
  | .unknown :: rest => take { g with surplus := true } false rest
  | .shortHelp tail :: _ => .error (shortHelpExit tail)
  | .switch .help none :: _ => .error .help
  | .switch .help (some _) :: _ => .error .usage
  | .switch .tables none :: rest => take { g with tables := true } false rest
  | .switch .tables (some _) :: _ => .error .usage
  | .switch .dialect (some value) :: rest => take { g with dialect := some value } false rest
  | .switch .output (some value) :: rest => take { g with output := some value } false rest
  | .switch .dialect none :: .argument value :: rest => take { g with dialect := some value } false rest
  | .switch .output none :: .argument value :: rest => take { g with output := some value } false rest
  | .switch _ none :: _ => .error .usage

def parse (argv : List String) : Except Exit Arguments := do
  let g ← take {} false (← words argv)
  match g.document with
  | some document =>
    if g.surplus then throw .usage else return ⟨document, g.dialect, g.output, g.tables⟩
  | none => throw .usage

end ShapeTables.CommandLine
