import ShapeTables.Yaml.Cursor

/-! Plain scalars. A plain scalar ends at a comment, at a colon before a blank, in a flow collection also at
its punctuation, and in a block where a line is indented less than the block. A line end inside counts as one
space, every further one as itself. -/
namespace ShapeTables.Yaml

def isFlowMark (c : Char) : Bool := c == ',' || c == '[' || c == ']' || c == '\x7b' || c == '\x7d'

/-- Whether a plain scalar ends in front of a text. -/
def endsPlain (flow : Bool) : List Char → Bool
  | [] => true
  | c :: rest =>
    isSpaceOrTab c || isBreak c ||
      (c == ':' && (atBlank rest || (flow && rest.head?.any isFlowMark))) ||
      (flow && (isFlowMark c || c == '?'))

/-- The characters up to where a plain scalar ends. -/
def plainRun (flow : Bool) : List Char → List Char
  | [] => []
  | c :: rest => if endsPlain flow (c :: rest) then [] else c :: plainRun flow rest

/-- The line ends and spaces in front of the next line with anything else, if no line among them separates
documents. -/
def plainBreaks? (lineStart : Bool) (c : Cursor) : Nat → Option (List Char × Cursor)
  | 0 => some ([], c)
  | fuel + 1 =>
    if lineStart && atSeparator c.rest then none
    else match c.peek? with
      | some ch =>
        if ch = ' ' then plainBreaks? false c.next fuel
        else if isBreak ch then (plainBreaks? true c.next fuel).map fun (breaks, c) => (breakChar ch :: breaks, c)
        else some ([], c)
      | none => some ([], c)

/-- What lies between two runs of a plain scalar. -/
structure Gap where
  /-- What the gap stands for, nothing if the scalar ends before it. -/
  text : Option (List Char)
  after : Cursor
  hasBreak : Bool

def readGap (c : Cursor) : Gap :=
  let spaces := c.rest.takeWhile (· = ' ')
  let c := c.forward spaces.length
  match c.peek? with
  | some first =>
    if isBreak first then match plainBreaks? true c.next c.rest.length with
      | none => ⟨none, c.next, true⟩
      | some (breaks, after) =>
        let text := if breakChar first ≠ '\n' then breakChar first :: breaks
          else if breaks.isEmpty then [' '] else breaks
        ⟨some text, after, true⟩
    else ⟨if spaces.isEmpty then none else some spaces, c, false⟩
  | none => ⟨if spaces.isEmpty then none else some spaces, c, false⟩

/-- A plain scalar: its characters, what follows it, and whether a line ends right before that. -/
structure Plain where
  chars : List Char
  after : Cursor
  hasBreak : Bool

/-- The plain scalar at a cursor, with `before` in front of its first run. -/
def readPlainFrom (flow : Bool) (indent : Int) (before : List Char) (hasBreak : Bool) (c : Cursor) :
    Nat → Plain
  | 0 => ⟨[], c, hasBreak⟩
  | fuel + 1 =>
    let run := if c.peek? = some '#' then [] else plainRun flow c.rest
    if run.isEmpty then ⟨[], c, hasBreak⟩
    else
      let gap := readGap (c.forward run.length)
      match gap.text with
      | none => ⟨before ++ run, gap.after, gap.hasBreak⟩
      | some text =>
        if gap.after.peek? = some '#' ∨ (!flow ∧ (gap.after.column : Int) < indent) then
          ⟨before ++ run, gap.after, gap.hasBreak⟩
        else
          let more := readPlainFrom flow indent text gap.hasBreak gap.after fuel
          { more with chars := before ++ run ++ more.chars }

def readPlain (flow : Bool) (indent : Int) (c : Cursor) : Plain :=
  readPlainFrom flow indent [] false c (c.rest.length + 1)

end ShapeTables.Yaml
