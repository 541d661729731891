import ShapeTables.Text.Blank
import ShapeTables.Text.Digits

/-! Integers written in decimal: a sign, then digits, in which single underscores may stand between two
digits. The digits may be those of any script, and blanks may stand around the numeral. -/
namespace ShapeTables.Text

/-- The digits of a numeral without the underscores between them. -/
def ungroup? : List Char → Option (List Char)
  | [] => none
  | [c] => if isDecimal c then some [c] else none
  | c :: '_' :: rest => if isDecimal c then (ungroup? rest).map (c :: ·) else none
  | c :: rest => if isDecimal c then (ungroup? rest).map (c :: ·) else none

/-- A sign and what follows it. -/
def takeSign : List Char → Bool × List Char
  | '-' :: rest => (true, rest)
  | '+' :: rest => (false, rest)
  | cs => (false, cs)

/-! ### Long integers -/

/-- The most decimal digits that an integer is read from or written with. -/
def maxDigits : Nat := 4300

/-- What is said of a numeral with too many digits. -/
def longNumeralMessage (digits : Nat) : String :=
  s!"Exceeds the limit ({maxDigits} digits) for integer string conversion: value has {digits} digits; " ++
    "use sys.set_int_max_str_digits() to increase the limit"

/-- What is said of an integer that cannot be written. -/
def longIntegerMessage : String :=
  s!"Exceeds the limit ({maxDigits} digits) for integer string conversion; " ++
    "use sys.set_int_max_str_digits() to increase the limit"

/-- Whether an integer has few enough digits to be written. -/
def isWritable (n : Int) : Bool := n.natAbs < Nat.pow 10 maxDigits

/-- The integer that a text stands for. -/
def integer? (cs : List Char) : Option Int := do
  let (negative, numeral) := takeSign (bareNumeral cs)
  let digits ← ungroup? numeral
  if maxDigits < digits.length then none
  let n : Int := number 10 digits
  return if negative then -n else n

end ShapeTables.Text
