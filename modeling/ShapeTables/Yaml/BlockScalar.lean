import ShapeTables.Text.Digits
import ShapeTables.Yaml.Cursor
import ShapeTables.Yaml.Failure

/-! Block scalars. The lines of a block scalar are those indented at least as far as its first line, or as far
as its header says. A literal one keeps its line ends; a folded one makes a space of a single line end between
two lines that start with no blank. The line ends after the last line are cut to one, dropped or kept. -/
namespace ShapeTables.Yaml

open Text

/-- What becomes of the line ends after the last line. -/
inductive Chomping where
  | clip
  | strip
  | keep
deriving DecidableEq, Repr

structure BlockHeader where
  chomping : Chomping
  /-- The indentation beyond that of the surrounding block. -/
  increment : Option Nat
deriving DecidableEq, Repr

def readChomping : List Char → Option Chomping × List Char
  | '+' :: rest => (some .keep, rest)
  | '-' :: rest => (some .strip, rest)
  | cs => (none, cs)

def readIncrement : List Char → Option Nat × List Char
  | c :: rest => if isDecimal c then (some (number 10 [c]), rest) else (none, c :: rest)
  | [] => (none, [])

/-- The header after the indicator, the two parts of it in either order. -/
def readHeader (cs : List Char) : Except Failure (BlockHeader × List Char) :=
  let (header, rest) : BlockHeader × List Char := match readChomping cs with
    | (some chomping, rest) =>
      let (increment, rest) := readIncrement rest
      (⟨chomping, increment⟩, rest)
    | (none, _) =>
      let (increment, rest) := readIncrement cs
      match increment with
      | none => (⟨.clip, none⟩, rest)
      | some n =>
        let (chomping, rest) := readChomping rest
        (⟨chomping.getD .clip, some n⟩, rest)
  if header.increment = some 0 ∨ !atSpace rest then .error .malformed else .ok (header, rest)

/-- The line ends in front of the first line that is not empty, and the width of the widest line of spaces
among those passed. -/
def leadingBreaks (widest : Nat) (c : Cursor) : Nat → List Char × Nat × Cursor
  | 0 => ([], widest, c)
  | fuel + 1 => match c.peek? with
    | some ch =>
      if ch = ' ' then leadingBreaks (max widest c.next.column) c.next fuel
      else if isBreak ch then
        let (breaks, widest, c) := leadingBreaks widest c.next fuel
        (breakChar ch :: breaks, widest, c)
      else ([], widest, c)
    | none => ([], widest, c)

/-- The line ends in front of the next line that is not empty, with at most `indent` spaces taken from each
line. -/
def innerBreaks (indent : Nat) (c : Cursor) : Nat → List Char × Cursor
  | 0 => ([], c)
  | fuel + 1 => match c.peek? with
    | some ch =>
      if ch = ' ' ∧ c.column < indent then innerBreaks indent c.next fuel
      else if isBreak ch then
        let (breaks, c) := innerBreaks indent c.next fuel
        (breakChar ch :: breaks, c)
      else ([], c)
    | none => ([], c)

/-- The characters of a block from a cursor on, `breaks` being the line ends in front of it. -/
def readLines (folded : Bool) (chomping : Chomping) (indent : Nat) (breaks : List Char) (c : Cursor) :
    Nat → List Char × Cursor
  | 0 => ([], c)
  | fuel + 1 =>
    let line := c.rest.takeWhile fun ch => !isBreak ch
    let c := c.forward line.length
    let lineEnd := (c.peek?.map breakChar).toList
    let (after, next) := innerBreaks indent c.next c.rest.length
    if next.column = indent ∧ next.peek?.isSome then
      let joint :=
        if folded ∧ lineEnd = ['\n'] ∧ !line.head?.any isSpaceOrTab ∧ !next.peek?.any isSpaceOrTab then
          if after.isEmpty then [' '] else []
        else lineEnd
      let (more, c) := readLines folded chomping indent after next fuel
      (breaks ++ line ++ joint ++ more, c)
    else
      let tail := match chomping with
        | .clip => lineEnd
        | .strip => []
        | .keep => lineEnd ++ after
      (breaks ++ line ++ tail, next)

/-- The block scalar at a cursor after its indicator, `indent` being the indentation around it. -/
def readBlock (folded : Bool) (indent : Int) (c : Cursor) : Except Failure (String × Cursor) := do
  let (header, rest) ← readHeader c.rest
  let some c := (c.moveTo rest).endLine? | throw .malformed
  let least := max 1 (indent + 1).toNat
  let (breaks, indent, c) := match header.increment with
    | none =>
      let (breaks, widest, c) := leadingBreaks 0 c c.rest.length
      (breaks, max least widest, c)
    | some n =>
      let (breaks, c') := innerBreaks (least + n - 1) c c.rest.length
      (breaks, least + n - 1, c')
  if c.column = indent ∧ c.peek?.isSome then
    let (chars, c) := readLines folded header.chomping indent breaks c (c.rest.length + 1)
    return (String.ofList chars, c)
  else
    return (String.ofList (if header.chomping = .keep then breaks else []), c)

end ShapeTables.Yaml
