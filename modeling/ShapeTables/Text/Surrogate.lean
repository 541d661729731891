/-! Surrogates. A code point beyond sixteen bits can be written as two units of sixteen bits, a high surrogate and
then a low one; a unit of either kind is no character by itself. -/
namespace ShapeTables.Text

def isHighSurrogate (unit : Nat) : Bool := 0xD800 ≤ unit && unit < 0xDC00

def isLowSurrogate (unit : Nat) : Bool := 0xDC00 ≤ unit && unit < 0xE000

/-- The code point that a high and a low surrogate stand for. -/
def surrogatePair? (high low : Nat) : Option Nat :=
  if isHighSurrogate high && isLowSurrogate low then some (0x10000 + (high - 0xD800) * 0x400 + (low - 0xDC00))
  else none

/-- The character of a code point; what is no character stands for the replacement character. -/
def charOrReplacement (code : Nat) : Char :=
  if h : code.isValidChar then Char.ofNatAux code h else Char.ofNat 0xFFFD

/-- The characters of units: a high surrogate and the low one after it are one character. -/
def joinSurrogates : List Nat → List Char
  | high :: low :: rest => match surrogatePair? high low with
    | some code => charOrReplacement code :: joinSurrogates rest
    | none => charOrReplacement high :: joinSurrogates (low :: rest)
  | [unit] => [charOrReplacement unit]
  | [] => []

end ShapeTables.Text
