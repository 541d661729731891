import ShapeTables.Text.Integer
import ShapeTables.Yaml.Cursor
import ShapeTables.Yaml.Failure
import ShapeTables.Yaml.Token

/-! Names, tags and directives. Anchors and aliases are named by ASCII letters, digits, dashes and underscores.
A tag is written in full between angle brackets, or as a handle and a suffix; octets of it may be escaped by a
percent sign. A directive fills the line that it starts on. -/
namespace ShapeTables.Yaml

open Text

def isNameChar (c : Char) : Bool := c.isAlphanum || c == '-' || c == '_'

def isTagChar (c : Char) : Bool := c.isAlphanum || "-;/?:@&=+$,_.!~*'()[]%".toList.contains c

/-- The name of an anchor or alias and what follows it. -/
def readName (cs : List Char) : Except Failure (String × List Char) :=
  let name := cs.takeWhile isNameChar
  let rest := cs.dropWhile isNameChar
  let mayFollow := fun c => isSpaceOrTab c || isBreak c || "?:,]\x7d%@\x60".toList.contains c
  if name.isEmpty ∨ !isAt mayFollow rest then .error .malformed else .ok (String.ofList name, rest)

/-! ### Tags -/

/-- The octets that percent signs escape at the front of a text. -/
def readOctets : List Char → Except Failure (List UInt8 × List Char)
  | '%' :: a :: b :: rest =>
    if isHexadecimal a ∧ isHexadecimal b then do
      let (octets, rest) ← readOctets rest
      return (UInt8.ofNat (number 16 [a, b]) :: octets, rest)
    else .error .malformed
  | '%' :: _ => .error .malformed
  | cs => .ok ([], cs)

/-- The characters of a tag and what follows it. -/
def readTagChars : Nat → List Char → Except Failure (List Char × List Char)
  | 0, cs => .ok ([], cs)
  | _, [] => .ok ([], [])
  | fuel + 1, c :: rest =>
    if c = '%' then do
      let (octets, rest) ← readOctets (c :: rest)
      match String.fromUTF8? ⟨octets.toArray⟩ with
      | none => throw .malformed
      | some s => do
        let (chars, rest) ← readTagChars fuel rest
        return (s.toList ++ chars, rest)
    else if isTagChar c then do
      let (chars, rest) ← readTagChars fuel rest
      return (c :: chars, rest)
    else .ok ([], c :: rest)

def readTagText (cs : List Char) : Except Failure (String × List Char) := do
  let (chars, rest) ← readTagChars cs.length cs
  if rest.length = cs.length then throw .malformed
  return (String.ofList chars, rest)

/-- A handle: an exclamation mark, or a name between two of them. -/
def readHandle : List Char → Except Failure (String × List Char)
  | '!' :: rest =>
    let name := rest.takeWhile isNameChar
    match rest.dropWhile isNameChar with
    | '!' :: after => .ok (String.ofList ('!' :: name ++ ['!']), after)
    | _ => if rest.head? = some ' ' then .ok ("!", rest) else .error .malformed
  | _ => .error .malformed

/-- The tag after its exclamation mark and what follows it. -/
def readTag (cs : List Char) : Except Failure (Token × List Char) := do
  let (token, rest) : Token × List Char ← match cs with
    | '<' :: rest => do
      let (suffix, rest) ← readTagText rest
      match rest with
      | '>' :: rest => pure (Token.tag none suffix, rest)
      | _ => throw .malformed
    | cs =>
      if atBlank cs then pure (Token.tag none "!", cs)
      else if (cs.takeWhile fun c => !(c == ' ' || isBreak c)).contains '!' then do
        let (handle, rest) ← readHandle ('!' :: cs)
        let (suffix, rest) ← readTagText rest
        pure (Token.tag (some handle) suffix, rest)
      else do
        let (suffix, rest) ← readTagText cs
        pure (Token.tag (some "!") suffix, rest)
  if atSpace rest then return (token, rest) else throw .malformed

/-! ### Directives -/

def readNumber (cs : List Char) : Except Failure (Nat × List Char) :=
  let digits := cs.takeWhile isDecimal
  if digits.isEmpty then .error .malformed
  else if maxDigits < digits.length then .error (.longNumeral digits.length)
  else .ok (number 10 digits, cs.dropWhile isDecimal)

def skipSpaces (cs : List Char) : List Char := cs.dropWhile (· = ' ')

def readVersion (cs : List Char) : Except Failure (Directive × List Char) := do
  let (major, rest) ← readNumber (skipSpaces cs)
  match rest with
  | '.' :: rest => do
    let (minor, rest) ← readNumber rest
    if atSpace rest then return (.version major minor, rest) else throw .malformed
  | _ => throw .malformed

def readTagDirective (cs : List Char) : Except Failure (Directive × List Char) := do
  let (handle, rest) ← readHandle (skipSpaces cs)
  if rest.head? ≠ some ' ' then throw .malformed
  let (lead, rest) ← readTagText (skipSpaces rest)
  if atSpace rest then return (.tag handle lead, rest) else throw .malformed

/-- The directive after its percent sign and what follows it on its line. -/
def readDirective (cs : List Char) : Except Failure (Directive × List Char) :=
  let name := cs.takeWhile isNameChar
  let rest := cs.dropWhile isNameChar
  if name.isEmpty ∨ !atSpace rest then .error .malformed
  else if name = "YAML".toList then readVersion rest
  else if name = "TAG".toList then readTagDirective rest
  else .ok (.other, rest.dropWhile fun c => !isBreak c)

end ShapeTables.Yaml
