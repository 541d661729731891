/-! Places in a YAML text. A cursor is what is left of a text with the line and column that it starts at. The
line ends of the text are line feeds; three further characters end a line as well. -/
namespace ShapeTables.Yaml

def isBreak (c : Char) : Bool := c == '\n' || c == '\u0085' || c == '\u2028' || c == '\u2029'

def isSpaceOrTab (c : Char) : Bool := c == ' ' || c == '\t'

/-- What a line end stands for within a scalar. -/
def breakChar (c : Char) : Char := if c = '\u0085' then '\n' else c

def byteOrderMark : Char := '\ufeff'

/-- Whether the text is at its end or at one of the given characters. -/
def isAt (p : Char → Bool) : List Char → Bool
  | [] => true
  | c :: _ => p c

def atBreak (cs : List Char) : Bool := isAt isBreak cs

def atSpace (cs : List Char) : Bool := isAt (fun c => c == ' ' || isBreak c) cs

def atBlank (cs : List Char) : Bool := isAt (fun c => isSpaceOrTab c || isBreak c) cs

/-- Whether a line that separates documents starts here. -/
def atSeparator (cs : List Char) : Bool :=
  (['-', '-', '-'].isPrefixOf cs || ['.', '.', '.'].isPrefixOf cs) && atBlank (cs.drop 3)

structure Cursor where
  rest : List Char
  index : Nat := 0
  line : Nat := 0
  column : Nat := 0

namespace Cursor

def peek? (c : Cursor) : Option Char := c.rest.head?

/-- The cursor after one character. A byte order mark has no width. -/
def next (c : Cursor) : Cursor :=
  match c.rest with
  | [] => c
  | ch :: rest =>
    if isBreak ch then ⟨rest, c.index + 1, c.line + 1, 0⟩
    else ⟨rest, c.index + 1, c.line, if ch = byteOrderMark then c.column else c.column + 1⟩

def forward (c : Cursor) : Nat → Cursor
  | 0 => c
  | n + 1 => c.next.forward n

/-- The cursor where `rest`, an end of what is left, starts. -/
def moveTo (c : Cursor) (rest : List Char) : Cursor := c.forward (c.rest.length - rest.length)

def skipWhile (c : Cursor) (p : Char → Bool) : Cursor := c.forward (c.rest.takeWhile p).length

/-- The cursor on the next line, if nothing but spaces and a comment are left on this one. -/
def endLine? (c : Cursor) : Option Cursor :=
  let c := c.skipWhile (· = ' ')
  let c := if c.peek? = some '#' then c.skipWhile fun ch => !isBreak ch else c
  if atBreak c.rest then some c.next else none

end Cursor

end ShapeTables.Yaml
