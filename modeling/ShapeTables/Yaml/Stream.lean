import ShapeTables.Yaml.BlockScalar
import ShapeTables.Yaml.PlainScalar
import ShapeTables.Yaml.Property
import ShapeTables.Yaml.QuotedScalar

/-! Token streams. Whether a token starts a key shows only at the colon after it, so the last token of each
level of nesting that may be one is remembered: a key lies on one line, is at most 1024 characters away from
its colon, and in a block has to be one where it starts at the indentation of the block. The tokens of a text
that cannot be read to its end are those that are settled at the place where reading stops. -/
namespace ShapeTables.Yaml

/-- A token that may turn out to start a key. -/
structure PossibleKey where
  /-- The number of tokens before it. -/
  position : Nat
  required : Bool
  index : Nat
  line : Nat
  column : Nat

structure Scanner where
  cursor : Cursor
  /-- The tokens so far, the latest first, and how many they are. -/
  tokens : List Token := []
  count : Nat := 0
  /-- The number of flow collections around the cursor. -/
  flow : Nat := 0
  /-- The indentation of the block around the cursor, and of those around that. -/
  indent : Int := -1
  outer : List Int := []
  keyAllowed : Bool := true
  /-- The possible keys by their level of flow. -/
  keys : List (Nat × PossibleKey) := []

namespace Scanner

abbrev Result := Except Failure Scanner

def emit (s : Scanner) (t : Token) : Scanner := { s with tokens := t :: s.tokens, count := s.count + 1 }

/-- Puts a token in front of the one at a position. -/
def insert (s : Scanner) (position : Nat) (t : Token) : Scanner :=
  let after := s.count - position
  { s with tokens := s.tokens.take after ++ t :: s.tokens.drop after, count := s.count + 1 }

def moveTo (s : Scanner) (c : Cursor) : Scanner := { s with cursor := c }

def inFlow (s : Scanner) : Bool := s.flow != 0

def allowKey (s : Scanner) (allowed : Bool) : Scanner := { s with keyAllowed := allowed }

/-! ### Keys and indentation -/

def isStale (s : Scanner) (k : PossibleKey) : Bool :=
  k.line != s.cursor.line || decide (k.index + 1024 < s.cursor.index)

/-- Forgets the keys that are too far away. -/
def dropStale (s : Scanner) : Result :=
  if s.keys.any fun (_, k) => s.isStale k && k.required then .error .malformed
  else .ok { s with keys := s.keys.filter fun (_, k) => !s.isStale k }

/-- Forgets the key of the level. -/
def dropKey (s : Scanner) : Result :=
  match s.keys.lookup s.flow with
  | none => .ok s
  | some k =>
    if k.required then .error .malformed
    else .ok { s with keys := s.keys.filter fun (level, _) => level != s.flow }

/-- Remembers the next token, if it may start a key. -/
def saveKey (s : Scanner) : Result :=
  if !s.keyAllowed then .ok s
  else do
    let s ← s.dropKey
    let k : PossibleKey :=
      { position := s.count
        required := !s.inFlow && s.indent == (s.cursor.column : Int)
        index := s.cursor.index, line := s.cursor.line, column := s.cursor.column }
    return { s with keys := (s.flow, k) :: s.keys }

/-- Closes the blocks that start right of a column, `outer` being the indentations of the blocks around. -/
def closeBlocks (column : Int) (s : Scanner) : List Int → Scanner
  | [] => { s with outer := [] }
  | i :: outer =>
    if column < s.indent then closeBlocks column ({ s with indent := i }.emit .blockEnd) outer
    else { s with outer := i :: outer }

/-- Closes the blocks that start right of a column; in flow collections indentation does not count. -/
def unwind (s : Scanner) (column : Int) : Scanner := if s.inFlow then s else closeBlocks column s s.outer

/-- Opens a block at a column, if the column is right of the block around it. -/
def openBlock (s : Scanner) (column : Nat) (position : Nat) (t : Token) : Scanner :=
  if s.indent < (column : Int) then { s.insert position t with indent := column, outer := s.indent :: s.outer }
  else s

/-! ### Tokens -/

/-- The cursor on the next token; a line end outside flow collections allows a key. -/
def skipToToken (s : Scanner) : Nat → Scanner
  | 0 => s
  | fuel + 1 => match s.cursor.peek? with
    | some c =>
      if c = ' ' ∨ (c = byteOrderMark ∧ s.cursor.index = 0) then (s.moveTo s.cursor.next).skipToToken fuel
      else if c = '#' then
        (s.moveTo (s.cursor.skipWhile fun c => !isBreak c)).skipToToken fuel
      else if isBreak c then
        ((s.moveTo s.cursor.next).allowKey (s.keyAllowed || !s.inFlow)).skipToToken fuel
      else s
    | none => s

/-- A token of one character. -/
def emitNext (s : Scanner) (t : Token) : Scanner := (s.moveTo s.cursor.next).emit t

/-- A token that stands at the start of a line and closes all blocks. -/
def readLineToken (s : Scanner) (t : Token) (c : Cursor) : Result := do
  let s ← (s.unwind (-1)).dropKey
  return ((s.allowKey false).moveTo c).emit t

def openFlow (s : Scanner) (t : Token) : Result := do
  let s ← s.saveKey
  return ({ s with flow := s.flow + 1 }.allowKey true).emitNext t

def closeFlow (s : Scanner) (t : Token) : Result :=
  if !s.inFlow then .error .malformed
  else do
    let s ← s.dropKey
    return ({ s with flow := s.flow - 1 }.allowKey false).emitNext t

def readFlowEntry (s : Scanner) : Result := do
  let s ← (s.allowKey true).dropKey
  return s.emitNext .flowEntry

def readBlockEntry (s : Scanner) : Result := do
  if !s.inFlow && !s.keyAllowed then throw .malformed
  let s := if s.inFlow then s else s.openBlock s.cursor.column s.count .blockSequenceStart
  let s ← (s.allowKey true).dropKey
  return s.emitNext .blockEntry

def readKey (s : Scanner) : Result := do
  if !s.inFlow && !s.keyAllowed then throw .malformed
  let s := if s.inFlow then s else s.openBlock s.cursor.column s.count .blockMappingStart
  let s ← (s.allowKey !s.inFlow).dropKey
  return s.emitNext .key

def readValue (s : Scanner) : Result :=
  match s.keys.lookup s.flow with
  | some k =>
    let s := { s with keys := s.keys.filter fun (level, _) => level != s.flow }
    let s := s.insert k.position .key
    let s := if s.inFlow then s else s.openBlock k.column k.position .blockMappingStart
    .ok ((s.allowKey false).emitNext .value)
  | none => do
    if !s.inFlow && !s.keyAllowed then throw .malformed
    let s := if s.inFlow then s else s.openBlock s.cursor.column s.count .blockMappingStart
    let s ← (s.allowKey !s.inFlow).dropKey
    return s.emitNext .value

/-- A token that may start a key, read from the text after its first character. -/
def readAfterMark (s : Scanner) (read : List Char → Except Failure (Token × List Char)) : Result := do
  let s ← s.saveKey
  let (t, rest) ← read (s.cursor.rest.drop 1)
  return ((s.allowKey false).moveTo (s.cursor.moveTo rest)).emit t

def readBlockScalar (s : Scanner) (folded : Bool) : Result := do
  let s ← (s.allowKey true).dropKey
  let (text, c) ← readBlock folded s.indent s.cursor.next
  return (s.moveTo c).emit (.scalar text false)

def readPlainScalar (s : Scanner) : Result := do
  let s ← s.saveKey
  let plain := readPlain s.inFlow (s.indent + 1) s.cursor
  return ((s.allowKey plain.hasBreak).moveTo plain.after).emit (.scalar (String.ofList plain.chars) true)

/-- Characters that no plain scalar starts with. -/
def isIndicator (c : Char) : Bool := "-?:,[]\x7b\x7d#&*!|>'\"%@\x60".toList.contains c

def startsPlain (s : Scanner) (c : Char) (rest : List Char) : Bool :=
  !(isSpaceOrTab c || isBreak c || isIndicator c) ||
    (!atBlank rest && (c == '-' || (!s.inFlow && (c == '?' || c == ':'))))

/-- The next token at a character and what follows it. -/
def readToken (s : Scanner) (c : Char) (rest : List Char) : Result :=
  let lineStart := s.cursor.column == 0
  if c == '%' && lineStart then do
    let (d, rest) ← readDirective rest
    let some after := (s.cursor.moveTo rest).endLine? | throw .malformed
    s.readLineToken (.directive d) after
  else if lineStart && atSeparator (c :: rest) then
    s.readLineToken (if c = '-' then .documentStart else .documentEnd) (s.cursor.forward 3)
  else match c with
    | '[' => s.openFlow .flowSequenceStart
    | '\x7b' => s.openFlow .flowMappingStart
    | ']' => s.closeFlow .flowSequenceEnd
    | '\x7d' => s.closeFlow .flowMappingEnd
    | ',' => s.readFlowEntry
    | '*' => s.readAfterMark fun cs => (readName cs).map fun (name, rest) => (.alias name, rest)
    | '&' => s.readAfterMark fun cs => (readName cs).map fun (name, rest) => (.anchor name, rest)
    | '!' => s.readAfterMark readTag
    | '\'' => s.readAfterMark fun cs => (readQuoted false cs).map fun (text, rest) => (.scalar text false, rest)
    | '\"' => s.readAfterMark fun cs => (readQuoted true cs).map fun (text, rest) => (.scalar text false, rest)
    | _ =>
      if c == '-' && atBlank rest then s.readBlockEntry
      else if c == '?' && (s.inFlow || atBlank rest) then s.readKey
      else if c == ':' && (s.inFlow || atBlank rest) then s.readValue
      else if c == '|' && !s.inFlow then s.readBlockScalar false
      else if c == '>' && !s.inFlow then s.readBlockScalar true
      else if s.startsPlain c rest then s.readPlainScalar
      else .error .malformed

/-- The scanner after the next token, and whether this was the last one. -/
def step (s : Scanner) : Except Failure (Scanner × Bool) := do
  let s := s.skipToToken (s.cursor.rest.length + 1)
  let s ← s.dropStale
  let s := s.unwind s.cursor.column
  match s.cursor.rest with
  | [] =>
    let s ← (s.unwind (-1)).dropKey
    return (s.emit .streamEnd, true)
  | c :: rest =>
    let s ← s.readToken c rest
    return (s, false)

end Scanner

/-- The tokens of a text, and why there are no more of them if the last one is not its end. -/
structure Stream where
  tokens : List Token
  stop : Failure

/-- The tokens before the first that may still turn out to be a key. Those after it have to wait for what
follows. -/
def Scanner.settled (s : Scanner) : List Token :=
  let count := (s.keys.filter fun (_, k) => !s.isStale k).foldl (fun n (_, k) => min n k.position) s.count
  s.tokens.reverse.take count

/-- The stream from a scanner on; every token but the last takes at least one of at most `fuel`
characters. -/
def Stream.scanFrom (s : Scanner) : Nat → Stream
  | 0 => ⟨s.tokens.reverse, .malformed⟩
  | fuel + 1 => match s.step with
    | .error stop => ⟨s.settled, stop⟩
    | .ok (s, true) => ⟨s.tokens.reverse, .malformed⟩
    | .ok (s, false) => scanFrom s fuel

/-- Whether a character may stand in a text. -/
def isPrintable (c : Char) : Bool :=
  c == '\t' || c == '\n' || c == '\r' || c == '\u0085' || (0x20 ≤ c.toNat && c.toNat ≤ 0x7E) ||
    (0xA0 ≤ c.toNat && c.toNat ≤ 0xFFFD) || 0x10000 ≤ c.toNat

def Stream.scan (cs : List Char) : Stream :=
  if cs.all isPrintable then scanFrom { cursor := { rest := cs } } (cs.length + 1)
  else ⟨[], .malformed⟩

end ShapeTables.Yaml
