import ShapeTables.Decimal.Layout
import ShapeTables.Text.Blank
import ShapeTables.Text.Integer
import ShapeTables.Text.Lowercase
import ShapeTables.Value
import ShapeTables.Yaml.Implicit

/-! Numbers of YAML. Underscores in a number are passed over. An integer is written in base two, eight, sixteen
or ten by how it starts, and parts between colons are in base sixty. A text that is tagged as a number may be
spelled in more ways than one that is taken for a number by itself. -/
namespace ShapeTables.Yaml

open Text

/-- The mark that digits of a radix may have in front. -/
def radixMark : Nat → Option (Char × Char)
  | 2 => some ('b', 'B')
  | 8 => some ('o', 'O')
  | 16 => some ('x', 'X')
  | _ => none

def dropRadixMark (radix : Nat) : List Char → List Char
  | '0' :: c :: rest => match radixMark radix with
    | some (small, capital) => if c = small ∨ c = capital then rest else '0' :: c :: rest
    | none => '0' :: c :: rest
  | cs => cs

/-- The integer that digits of a radix stand for, with blanks around them and a sign. -/
def integerOf (radix : Nat) (cs : List Char) : Except Failure Int :=
  let (negative, digits) := takeSign (bareNumeral cs)
  let digits := dropRadixMark radix digits
  let isDigit := fun c => (digitValue? c).any (· < radix)
  let size := (digits.takeWhile isDigit).length
  if radix = 10 ∧ maxDigits < size then .error (.longNumeral size)
  else if digits.isEmpty ∨ size < digits.length then .error (.notInteger radix (String.ofList cs))
  else
    let n : Int := number radix digits
    .ok (if negative then -n else n)

/-- The parts read one after another. -/
def readParts (read : List Char → Except Failure α) : List (List Char) → Except Failure (List α)
  | [] => .ok []
  | part :: parts => do
    let x ← read part
    let xs ← readParts read parts
    return x :: xs

/-- A number after its sign. -/
def magnitude (cs : List Char) : Except Failure Int :=
  match cs with
  | ['0'] => .ok 0
  | '0' :: 'b' :: digits => integerOf 2 digits
  | '0' :: 'x' :: digits => integerOf 16 digits
  | '0' :: _ => integerOf 8 cs
  | [] => .error .emptyNumber
  | _ =>
    if ':' ∈ cs then do
      let parts ← readParts (integerOf 10) (colonParts cs)
      return parts.foldl (fun n part => n * 60 + part) 0
    else integerOf 10 cs

def readInt (s : String) : Except Failure Int := do
  match s.toList.filter (· ≠ '_') with
  | [] => throw .emptyNumber
  | sign :: rest =>
    let n ← magnitude (dropSign (sign :: rest))
    return if sign = '-' then -n else n

/-- An exponent after its letter. -/
def readPower? (cs : List Char) : Option Int :=
  let (negative, digits) := takeSign cs
  if digits.isEmpty ∨ !digits.all isDecimal then none
  else
    let n : Int := number 10 digits
    some (if negative then -n else n)

/-- The double that a decimal without a sign stands for. -/
def decimal? (cs : List Char) : Option Float :=
  let whole := cs.takeWhile isDecimal
  let rest := cs.dropWhile isDecimal
  let (part, rest) := match rest with
    | '.' :: rest => (rest.takeWhile isDecimal, rest.dropWhile isDecimal)
    | rest => ([], rest)
  if whole.isEmpty ∧ part.isEmpty then none
  else
    let power := match rest with
      | [] => some 0
      | e :: rest => if e = 'e' then readPower? rest else none
    power.map fun power => Decimal.toFloat (number 10 (whole ++ part)) (power - part.length)

/-- The double that a text in lower case stands for, with blanks around it and a sign. -/
def doubleOf (cs : List Char) : Except Failure Float :=
  let (negative, digits) := takeSign (bareNumeral cs)
  let x :=
    if digits = "inf".toList ∨ digits = "infinity".toList then some (1.0 / 0.0)
    else if digits = "nan".toList then some notANumber
    else decimal? digits
  match x with
  | some x => .ok (if negative then -x else x)
  | none => .error (.notDouble (String.ofList cs))

/-- The sum of parts in base sixty, the last part being the lowest; `power` is the number of parts taken. Every
part has to have a place whose value is a double. -/
def sexagesimal (sum : Float) (power : Nat) : List Float → Except Failure Float
  | [] => .ok sum
  | x :: rest =>
    let place := Decimal.toFloat (Nat.pow 60 power) 0
    if place.isInf then .error .hugePower else sexagesimal (sum + x * place) (power + 1) rest

/-- A double after its sign. -/
def doubleMagnitude (cs : List Char) : Except Failure Float :=
  if cs = ".inf".toList then .ok (1.0 / 0.0)
  else if ':' ∈ cs then do
    let parts ← readParts doubleOf (colonParts cs)
    sexagesimal 0.0 0 parts.reverse
  else doubleOf cs

/-- A double, or what is not a number: that of the common mark by its usual name, and one of the given mark
however else it comes about. -/
def readDouble (mark : Nat) (s : String) : Except Failure Scalar := do
  match (lower s).toList.filter (· ≠ '_') with
  | [] => throw .emptyNumber
  | sign :: rest =>
    let cs := dropSign (sign :: rest)
    if cs = ".nan".toList then return .nan 0
    let x ← doubleMagnitude cs
    if x.isNaN then return .nan mark
    return .float (if sign = '-' then -x else x)

end ShapeTables.Yaml
