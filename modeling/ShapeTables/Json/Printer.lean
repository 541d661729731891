import ShapeTables.Decimal.Layout
import ShapeTables.Value

/-! Writing JSON: one item or member on a line, each level indented by two blanks, and every character
outside printable ASCII escaped, in two code units where it needs them. Values that JSON lacks are written as
null. -/
namespace ShapeTables.Json

/-- Numbers as in statements, with JSON's names for the values that are not finite. -/
def numbers : Decimal.Layout := ⟨-4, 16, "Infinity", "NaN"⟩

def hexDigit (n : Nat) : Char := (Nat.toDigits 16 n).headD '0'

/-- The escape of a code unit, by four hexadecimal digits. -/
def unitEscape (unit : Nat) : List Char :=
  ['\\', 'u', hexDigit (unit / 4096 % 16), hexDigit (unit / 256 % 16), hexDigit (unit / 16 % 16),
   hexDigit (unit % 16)]

def encodeChar (c : Char) : List Char :=
  if c = '\"' then ['\\', '\"']
  else if c = '\\' then ['\\', '\\']
  else if 0x20 ≤ c.toNat ∧ c.toNat < 0x7F then [c]
  else if c = '\n' then ['\\', 'n']
  else if c = '\r' then ['\\', 'r']
  else if c = '\t' then ['\\', 't']
  else if c.toNat = 0x0C then ['\\', 'f']
  else if c.toNat = 0x08 then ['\\', 'b']
  else if c.toNat < 0x10000 then unitEscape c.toNat
  else
    let rest := c.toNat - 0x10000
    unitEscape (0xD800 + rest / 0x400) ++ unitEscape (0xDC00 + rest % 0x400)

def encodeString (s : String) : List Char := '\"' :: s.toList.flatMap encodeChar ++ ['\"']

def writeScalar : Scalar → List Char
  | .bool true => ['t', 'r', 'u', 'e']
  | .bool false => ['f', 'a', 'l', 's', 'e']
  | .int n => (toString n).toList
  | .float x => (numbers.text x).toList
  | .nan _ => numbers.notANumber.toList
  | .text s => encodeString s
  | _ => ['n', 'u', 'l', 'l']

def keyText : Scalar → String
  | .text s => s
  | key => String.ofList (writeScalar key)

/-- The start of a line at a level. -/
def lineStart (level : Nat) : List Char := '\n' :: List.replicate (2 * level) ' '

mutual

/-- A value whose first line starts at a level. -/
def write (level : Nat) : Value → List Char
  | .scalar s => writeScalar s
  | .pair .. | .set _ | .ancestor => writeScalar .null
  | .list [] => ['[', ']']
  | .list (v :: rest) => '[' :: lineStart (level + 1) ++ write (level + 1) v ++ writeItems level rest
  | .map [] => ['{', '}']
  | .map ((key, v) :: rest) =>
    '{' :: lineStart (level + 1) ++ encodeString (keyText key) ++ ':' :: ' ' :: write (level + 1) v ++
      writeMembers level rest

/-- The items after the first one, and the closing bracket. -/
def writeItems (level : Nat) : List Value → List Char
  | [] => lineStart level ++ [']']
  | v :: rest => ',' :: lineStart (level + 1) ++ write (level + 1) v ++ writeItems level rest

/-- The members after the first one, and the closing brace. -/
def writeMembers (level : Nat) : List (Scalar × Value) → List Char
  | [] => lineStart level ++ ['}']
  | (key, v) :: rest =>
    ',' :: lineStart (level + 1) ++ encodeString (keyText key) ++ ':' :: ' ' :: write (level + 1) v ++
      writeMembers level rest

end

/-- The JSON text of a value. -/
def render (v : Value) : String := String.ofList (write 0 v)

end ShapeTables.Json
