import ShapeTables.Pattern.Token
import ShapeTables.Pattern.Width
import ShapeTables.Text.CharacterName
import ShapeTables.Text.Identifier
import ShapeTables.Text.Integer

/-! Well-formed patterns. The check walks over the tokens of a regular expression once and keeps what later
parts can depend on: the groups and their names, the flags, and how wide every part is, since a part that is
looked back over must have a fixed width. Three kinds of patterns are refused for reasons of their own: those
with a count too large to repeat by, with global flags that contradict each other, and with a part that is too
wide to be looked back over. -/
namespace ShapeTables.Pattern

open Text

inductive Fault where
  | malformed
  | hugeCount
  | conflictingFlags
  /-- A part that is looked back over has a fixed width that is too large. -/
  | wideLookBehind
deriving DecidableEq, Repr

/-- What the parts after a place can depend on. A group that is still open has no width. -/
structure Cursor where
  rest : List Token
  groups : List (Option Width)
  names : List (String × Nat)
  /-- The number of groups where the outermost look-behind began. -/
  behind : Option Nat
  /-- The largest number of a group that a condition asks for. -/
  condition : Nat
  verbose : Bool
  template : Bool
  ascii : Bool
  unicode : Bool
  repeats : Bool
  /-- Whether a part that is looked back over has no fixed width. -/
  loose : Bool
  /-- Whether a part that is looked back over is too wide for that. -/
  wide : Bool

def Cursor.start (tokens : List Token) : Cursor :=
  ⟨tokens, [], [], none, 0, false, false, false, false, false, false, false⟩

abbrev Walk := StateT Cursor (Except Fault)

def fail : Walk α := throw .malformed

def require (p : Bool) : Walk Unit := if p then pure () else fail

def peek? : Walk (Option Token) := return (← get).rest.head?

/-- Goes over one token. What comes next is looked at already, so that a dangling backslash is refused before the
token in front of it has any effect. -/
def advance : Walk Unit := do
  let k ← get
  require (k.rest.tail.head? != some .dangling)
  StateT.set { k with rest := k.rest.tail }

def nextIs (c : Char) : Walk Bool := return (← peek?) == some (.plain c)

/-- Goes over a character if it is next. -/
def accept (c : Char) : Walk Bool := do
  if ← nextIs c then advance; return true else return false

def take? : Walk (Option Token) := do
  let t ← peek?
  advance
  return t

/-- At most `count` characters that satisfy `p`. -/
def takeUpTo (p : Char → Bool) : Nat → Walk (List Char)
  | 0 => return []
  | count + 1 => do
    match ← peek? with
    | some (.plain c) =>
      if p c then
        advance
        return c :: (← takeUpTo p count)
      else return []
    | _ => return []

def takeAll (p : Char → Bool) : Walk (List Char) := do takeUpTo p (← get).rest.length

/-- A name that goes up to a closing character, which is gone over too. A name is never empty. -/
def takeName (closing : Char) : Walk String := do
  let name ← takeAll (· ≠ closing)
  require (← accept closing)
  require !name.isEmpty
  return String.ofList name

/-! ### Escapes -/

def isOctal (c : Char) : Bool := '0' ≤ c && c ≤ '7'

/-- The character with a number of `size` hexadecimal digits. -/
def hexEscape (size : Nat) : Walk Nat := do
  let digits ← takeUpTo isHexadecimal size
  require (digits.length == size)
  let n := number 16 digits
  require (n ≤ 0x10FFFF)
  return n

/-- A character by its name in braces. -/
def namedEscape : Walk Nat := do
  require (← accept '\x7b')
  let name ← takeName '\x7d'
  match CharacterName.find? name.toList with
  | some n => return n
  | none => fail

def controlEscape? : Char → Option Nat
  | 'a' => some 7
  | 'b' => some 8
  | 'f' => some 12
  | 'n' => some 10
  | 'r' => some 13
  | 't' => some 9
  | 'v' => some 11
  | '\\' => some 92
  | _ => none

/-- Whether an escape stands for a class of characters. -/
def isClass (c : Char) : Bool := "dDsSwW".toList.contains c

/-- An escape that is neither a class nor starts with a digit: the character it stands for. -/
def charEscape (c : Char) : Walk Nat :=
  match c with
  | 'x' => hexEscape 2
  | 'u' => hexEscape 4
  | 'U' => hexEscape 8
  | 'N' => namedEscape
  | _ => if c.isAlpha then fail else return c.toNat

/-- An escape in a set: a character, or nothing for a class. -/
def setEscape (c : Char) : Walk (Option Nat) := do
  match controlEscape? c with
  | some n => return some n
  | none =>
    if isClass c then return none
    else if isOctal c then
      let n := number 8 (c :: (← takeUpTo isOctal 2))
      require (n ≤ 0o377)
      return some n
    else if isDecimal c then fail
    else return some (← charEscape c)

/-- The last part of a sequence, as far as a repetition cares. -/
inductive Part where
  /-- A place between characters, which cannot be repeated. -/
  | place
  | repetition (w : Width)
  | other (w : Width)

def Part.width : Part → Width
  | .place => .zero
  | .repetition w => w
  | .other w => w

def closedWidth? (k : Cursor) (group : Nat) : Option Width :=
  match group with
  | 0 => none
  | n + 1 => (k.groups[n]?).join

/-- Inside a look-behind only groups closed before it can be referred to. -/
def requireBehind (group : Nat) : Walk Unit := do
  let k ← get
  match k.behind with
  | none => pure ()
  | some count => require ((closedWidth? k group).isSome && group ≤ count)

/-- A reference to a group by its number. -/
def groupReference (group : Nat) : Walk Part := do
  match closedWidth? (← get) group with
  | none => fail
  | some w =>
    requireBehind group
    return .other w

/-- An escape that starts with a digit other than zero: a character by three octal digits, else a group. -/
def digitEscape (c : Char) : Walk Part := do
  match ← takeUpTo isDecimal 1 with
  | [] => groupReference (number 10 [c])
  | d :: _ =>
    if isOctal c && isOctal d then
      match ← takeUpTo isOctal 1 with
      | e :: _ =>
        require (number 8 [c, d, e] ≤ 0o377)
        return .other .one
      | [] => groupReference (number 10 [c, d])
    else groupReference (number 10 [c, d])

/-- An escape outside sets. -/
def escape (c : Char) : Walk Part := do
  if "AbBZ".toList.contains c then return .place
  else if isClass c || (controlEscape? c).isSome then return .other .one
  else if c = '0' then
    let _ ← takeUpTo isOctal 2
    return .other .one
  else if isDecimal c then digitEscape c
  else
    let _ ← charEscape c
    return .other .one

/-! ### Sets -/

/-- A member of a set that starts with the given token. -/
def setMember : Token → Walk (Option Nat)
  | .plain c => return some c.toNat
  | .escaped c => setEscape c
  | .dangling => fail

/-- The members of a set up to its closing bracket; the first member may be a closing bracket itself. -/
def setMembers (first : Bool) : Nat → Walk Unit
  | 0 => fail
  | count + 1 => do
    match ← take? with
    | none => fail
    | some t =>
      if t == .plain ']' && !first then return
      let low ← setMember t
      if ← accept '-' then
        match ← take? with
        | none => fail
        | some (.plain ']') => return
        | some t =>
          match low, ← setMember t with
          | some low, some high => require (low ≤ high)
          | _, _ => fail
      setMembers false count

/-! ### Flags -/

structure Flags where
  added : List Char
  removed : List Char

def isFlag (c : Char) : Bool := "iLmsxatu".toList.contains c

/-- Flags that say which characters are letters, of which one at most may be given. -/
def isLetterFlag (c : Char) : Bool := "aLu".toList.contains c

/-- The flags that are turned on, from the first one, and the character after them. -/
def addedFlags (added : List Char) (c : Char) : Nat → Walk (List Char × Char)
  | 0 => fail
  | count + 1 => do
    require (c != 'L')
    require (!(isLetterFlag c && added.any fun a => isLetterFlag a && a != c))
    let added := c :: added
    match (← take?).bind Token.plain? with
    | none => fail
    | some next =>
      if next = ')' ∨ next = '-' ∨ next = ':' then return (added, next)
      else if isFlag next then addedFlags added next count
      else fail

/-- The flags that are turned off, from the first one up to the colon. -/
def removedFlags (removed : List Char) (c : Char) : Nat → Walk (List Char)
  | 0 => fail
  | count + 1 => do
    require !(isLetterFlag c)
    let removed := c :: removed
    match (← take?).bind Token.plain? with
    | none => fail
    | some next =>
      if next = ':' then return removed
      else if isFlag next then removedFlags removed next count
      else fail

/-- The flags of a group from their first character, or nothing when they hold for the whole pattern. -/
def flags (c : Char) : Walk (Option Flags) := do
  let count := (← get).rest.length + 1
  let (added, stop) ← if c = '-' then pure ([], '-') else addedFlags [] c count
  if stop = ')' then
    modify fun k => { k with
      verbose := k.verbose || added.contains 'x', template := k.template || added.contains 't'
      ascii := k.ascii || added.contains 'a', unicode := k.unicode || added.contains 'u' }
    return none
  require !(added.contains 't')
  if stop = '-' then
    match (← take?).bind Token.plain? with
    | none => fail
    | some first =>
      require (isFlag first)
      let removed ← removedFlags [] first count
      require !(removed.contains 't')
      require !(added.any removed.contains)
      return some ⟨added, removed⟩
  else return some ⟨added, []⟩

/-! ### Repetitions -/

/-- Counts of `maxCount` and more are not repeated by. -/
def maxCount : Nat := Nat.pow 2 32 - 1

/-- The counts in braces, if what follows an opening brace is one or two counts and a closing brace. -/
def counts? : Walk (Option (List Char × List Char)) := do
  let start ← get
  if ← nextIs '\x7d' then return none
  let low ← takeAll isDecimal
  let high ← if ← accept ',' then takeAll isDecimal else pure low
  if ← accept '\x7d' then return some (low, high)
  else
    StateT.set start
    return none

/-- The least and the most count of a repetition that starts with the given character. -/
def repetition? (c : Char) : Walk (Option (Nat × Option Nat)) := do
  match c with
  | '?' => return some (0, some 1)
  | '*' => return some (0, none)
  | '+' => return some (1, none)
  | _ => match ← counts? with
    | none => return none
    | some (low, high) =>
      let least := number 10 low
      let most := number 10 high
      if maxCount ≤ least then throw .hugeCount
      if high.isEmpty then return some (least, none)
      if maxCount ≤ most then throw .hugeCount
      require (least ≤ most)
      return some (least, some most)

/-! ### Sequences -/

/-- A sequence of parts: the width of all but the last, and the last. -/
structure Sequence where
  before : Width
  last : Option Part

def Sequence.empty : Sequence := ⟨.zero, none⟩

def Sequence.width (s : Sequence) : Width :=
  match s.last with
  | some part => s.before.add part.width
  | none => s.before

def Sequence.push (s : Sequence) (part : Part) : Sequence := ⟨s.width, some part⟩

/-- Opens a group, under a name if it has one that no group has yet. -/
def openGroup (name : Option String) : Walk Nat := do
  let k ← get
  let group := k.groups.length + 1
  match name with
  | some name =>
    require (k.names.lookup name).isNone
    StateT.set { k with groups := k.groups ++ [none], names := (name, group) :: k.names }
  | none => StateT.set { k with groups := k.groups ++ [none] }
  return group

def closeGroup (group : Nat) (w : Width) : Walk Unit :=
  modify fun k => { k with groups := k.groups.set (group - 1) (some w) }

/-- No pattern has as many groups. -/
def maxGroups : Nat := Nat.pow 2 30 - 1

/-- The group that a condition asks for, by name or by number. -/
def conditionGroup (name : String) : Walk Nat := do
  if isIdentifier name then
    match (← get).names.lookup name with
    | some group => return group
    | none => fail
  else match integer? name.toList with
    | some (.ofNat (group + 1)) =>
      require (group + 1 < maxGroups)
      modify fun k => { k with condition := max k.condition (group + 1) }
      return group + 1
    | _ => fail

/-- Goes over a comment up to its closing parenthesis. -/
def comment : Nat → Walk Unit
  | 0 => fail
  | count + 1 => do
    match ← take? with
    | none => fail
    | some t => if t == .plain ')' then return else comment count

/-- Goes over the rest of a line. -/
def restOfLine : Nat → Walk Unit
  | 0 => return
  | count + 1 => do
    match ← take? with
    | none => return
    | some t => if t == .plain '\n' then return else restOfLine count

def isVerboseBlank (c : Char) : Bool :=
  c == ' ' || c == '\t' || c == '\n' || c == '\r' || c == '\x0b' || c == '\x0c'

/-- What an opening parenthesis starts. -/
inductive Opening where
  | group (capturing : Bool) (name : Option String) (flags : Flags)
  | look (behind : Bool)
  | condition (group : Nat)
  | reference (part : Part)
  | comment
  | globalFlags

/-- Goes over what follows an opening parenthesis and tells what it starts. -/
def opening : Walk Opening := do
  if !(← accept '?') then return .group true none ⟨[], []⟩
  match (← take?).bind Token.plain? with
  | some 'P' =>
    if ← accept '<' then
      let name ← takeName '>'
      require (isIdentifier name)
      return .group true (some name) ⟨[], []⟩
    else if ← accept '=' then
      let name ← takeName ')'
      match (← get).names.lookup name with
      | some group => return .reference (← groupReference group)
      | none => fail
    else fail
  | some ':' => return .group false none ⟨[], []⟩
  | some '>' => return .group false none ⟨[], []⟩
  | some '#' =>
    comment ((← get).rest.length + 1)
    return .comment
  | some '=' => return .look false
  | some '!' => return .look false
  | some '<' =>
    match (← take?).bind Token.plain? with
    | some '=' => return .look true
    | some '!' => return .look true
    | _ => fail
  | some '(' =>
    let group ← conditionGroup (← takeName ')')
    requireBehind group
    return .condition group
  | some c =>
    if c = '-' ∨ isFlag c then
      match ← flags c with
      | some f => return .group false none f
      | none => return .globalFlags
    else fail
  | none => fail

mutual

/-- Alternatives up to a closing parenthesis or the end. At the top level the flags may have changed when the
next alternative starts. -/
def alternatives (verbose top first : Bool) : Nat → Walk Width
  | 0 => fail
  | fuel + 1 => do
    let s ← sequence verbose (top && first) .empty fuel
    if ← accept '|' then
      let k ← get
      let verbose := if top then k.verbose else verbose
      return s.width.clamp.either (← alternatives verbose top false fuel)
    else return s.width.clamp

/-- The parts of one alternative, after those in `s`. -/
def sequence (verbose first : Bool) (s : Sequence) : Nat → Walk Sequence
  | 0 => fail
  | fuel + 1 => do
    match ← peek? with
    | none => return s
    | some (.plain '|') => return s
    | some (.plain ')') => return s
    | some .dangling => fail
    | some (.escaped c) =>
      advance
      let part ← escape c
      sequence verbose first (s.push part) fuel
    | some (.plain c) =>
      advance
      if verbose && isVerboseBlank c then sequence verbose first s fuel
      else if verbose && c == '#' then
        restOfLine ((← get).rest.length + 1)
        sequence verbose first s fuel
      else match c with
      | '[' =>
        let _ ← accept '^'
        setMembers true ((← get).rest.length + 1)
        sequence verbose first (s.push (.other .one)) fuel
      | '^' => sequence verbose first (s.push .place) fuel
      | '$' => sequence verbose first (s.push .place) fuel
      | '(' => group verbose first s fuel
      | _ =>
        if c == '?' || c == '*' || c == '+' || c == '\x7b' then
          match ← repetition? c with
          | none => sequence verbose first (s.push (.other .one)) fuel
          | some (least, most) => match s.last with
            | some (.other w) =>
              if !(← accept '?') then let _ ← accept '+'
              modify fun k => { k with repeats := true }
              sequence verbose first ⟨s.before, some (.repetition (w.times least most))⟩ fuel
            | _ => fail
        else sequence verbose first (s.push (.other .one)) fuel

/-- A part in parentheses and what follows it. -/
def group (verbose first : Bool) (s : Sequence) : Nat → Walk Sequence
  | 0 => fail
  | fuel + 1 => do
    match ← opening with
    | .comment => sequence verbose first s fuel
    | .reference part => sequence verbose first (s.push part) fuel
    | .globalFlags =>
      require (first && s.last.isNone)
      sequence (← get).verbose first s fuel
    | .look behind =>
      let outer := (← get).behind
      if behind && outer.isNone then modify fun k => { k with behind := some k.groups.length }
      let w ← alternatives verbose false false fuel
      if behind then modify fun k => { k with behind := outer }
      require (← accept ')')
      if behind then modify fun k => { k with loose := k.loose || !w.isFixed, wide := k.wide || w.isWide }
      sequence verbose first (s.push (.other .zero)) fuel
    | .condition _ =>
      let yes ← sequence verbose false .empty fuel
      let no ← if ← accept '|' then sequence verbose false .empty fuel else pure .empty
      require (← accept ')')
      sequence verbose first (s.push (.other (yes.width.clamp.either no.width.clamp))) fuel
    | .group capturing name f =>
      let opened ← if capturing then pure (some (← openGroup name)) else pure none
      let inner := (verbose || f.added.contains 'x') && !(f.removed.contains 'x')
      let w ← alternatives inner false false fuel
      require (← accept ')')
      if let some opened := opened then closeGroup opened w
      sequence verbose first (s.push (.other w)) fuel

end

/-- Checks a whole pattern. -/
def whole (fuel : Nat) : Walk Unit := do
  let _ ← alternatives false true true fuel
  let k ← get
  if k.ascii && k.unicode then throw .conflictingFlags
  require k.rest.isEmpty
  require (k.condition ≤ k.groups.length)
  require !(k.template && k.repeats)
  require !k.loose
  if k.wide then throw .wideLookBehind

/-- Why a text is no pattern, if it is none. Each token takes at most three steps. -/
def check (s : String) : Except Fault Unit :=
  match tokens s.toList with
  | [.dangling] => .error .malformed
  | ts => (whole (3 * ts.length + 3)).run' (Cursor.start ts)

end ShapeTables.Pattern
