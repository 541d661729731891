import ShapeTables.Text.Digits
import ShapeTables.Text.Surrogate
import ShapeTables.Yaml.Cursor
import ShapeTables.Yaml.Failure

/-! Scalars in quotes. A line end and the blanks around it count as one space, every further line end as itself.
In single quotes only the quote is escaped, by another one; in double quotes a backslash starts an escape, and
before a line end takes the line end away. -/
namespace ShapeTables.Yaml

open Text

/-- The line ends in front of the next character that is no blank. No line among them may separate
documents. -/
def readBreaks (lineStart : Bool) : List Char → Except Failure (List Char × List Char)
  | [] => .ok ([], [])
  | c :: rest =>
    if lineStart && atSeparator (c :: rest) then .error .malformed
    else if isSpaceOrTab c then readBreaks false rest
    else if isBreak c then do
      let (breaks, rest) ← readBreaks true rest
      return (breakChar c :: breaks, rest)
    else .ok ([], c :: rest)

/-- What a line end followed by other line ends stands for. -/
def fold (first : Char) (breaks : List Char) : List Char :=
  if breakChar first ≠ '\n' then breakChar first :: breaks
  else if breaks.isEmpty then [' '] else breaks

/-- The escapes of one letter. -/
def letterEscapes : List (Char × Char) :=
  [('0', '\x00'), ('a', '\x07'), ('b', '\x08'), ('t', '\t'), ('\t', '\t'), ('n', '\n'), ('v', '\x0b'),
   ('f', '\x0c'), ('r', '\r'), ('e', '\x1b'), (' ', ' '), ('\"', '\"'), ('\\', '\\'), ('/', '/'),
   ('N', '\u0085'), ('_', '\u00a0'), ('L', '\u2028'), ('P', '\u2029')]

/-- The escapes of code points: the letter and the number of digits after it. -/
def codeEscapes : List (Char × Nat) := [('x', 2), ('u', 4), ('U', 8)]

def charOfCode (code : Nat) : Except Failure Char :=
  if 0x7FFFFFFF < code then .error .hugeCharacter
  else if 0x10FFFF < code then .error .noCharacter
  else .ok (charOrReplacement code)

/-- The code point of an escape after its backslash, and what follows it. -/
def readCode? : List Char → Option (Nat × List Char)
  | [] => none
  | c :: rest => do
    let size ← codeEscapes.lookup c
    let digits := rest.take size
    if digits.length = size ∧ digits.all isHexadecimal then some (number 16 digits, rest.drop size) else none

/-- The code point that an escaped one stands for together with a surrogate that is escaped right after it, and
what follows. -/
def joinEscaped (code : Nat) (rest : List Char) : Nat × List Char :=
  let pair := match rest with
    | '\\' :: after => (readCode? after).bind fun (low, after) =>
      (surrogatePair? code low).map fun joined => (joined, after)
    | _ => none
  pair.getD (code, rest)

/-- What stands for the text after a backslash, and what follows it. -/
def readEscape : List Char → Except Failure (List Char × List Char)
  | [] => .error .malformed
  | c :: rest => match letterEscapes.lookup c with
    | some meant => .ok ([meant], rest)
    | none => match readCode? (c :: rest) with
      | some (code, rest) => do
        let (code, rest) := joinEscaped code rest
        return ([← charOfCode code], rest)
      | none => if isBreak c then readBreaks true rest else .error .malformed

/-- The characters up to the closing quote and what follows it; every step takes at least one of at most
`fuel` characters. -/
def readQuotedChars (double : Bool) : Nat → List Char → Except Failure (List Char × List Char)
  | 0, _ => .error .malformed
  | _, [] => .error .malformed
  | fuel + 1, c :: rest =>
    let goOn := fun (before rest : List Char) => do
      let (chars, rest) ← readQuotedChars double fuel rest
      return (before ++ chars, rest)
    if !double && c == '\'' then match rest with
      | '\'' :: rest => goOn ['\''] rest
      | rest => .ok ([], rest)
    else if double && c == '\"' then .ok ([], rest)
    else if double && c == '\\' then do
      let (meant, rest) ← readEscape rest
      goOn meant rest
    else if isSpaceOrTab c || isBreak c then
      let blanks := (c :: rest).takeWhile isSpaceOrTab
      match (c :: rest).dropWhile isSpaceOrTab with
      | [] => .error .malformed
      | next :: rest =>
        if isBreak next then do
          let (breaks, rest) ← readBreaks true rest
          goOn (fold next breaks) rest
        else goOn blanks (next :: rest)
    else goOn [c] rest

/-- The scalar after an opening quote and what follows its closing quote. -/
def readQuoted (double : Bool) (cs : List Char) : Except Failure (String × List Char) := do
  let (chars, rest) ← readQuotedChars double (cs.length + 1) cs
  return (String.ofList chars, rest)

end ShapeTables.Yaml
