import ShapeTables.Decimal.Layout
import ShapeTables.Text.Integer
import ShapeTables.Text.Place
import ShapeTables.Text.Surrogate
import ShapeTables.Value

/-! Reading JSON. The grammar is that of JSON with three more numbers, NaN, Infinity and -Infinity. Of two
members with one name the later gives the value and the earlier the place. A text that cannot be read is
refused at the first character that no JSON text could have there; an integer of more digits than are
converted is refused on its own. -/
namespace ShapeTables.Json

open Text

inductive Cause where
  | byteOrderMark
  | expectingValue
  | expectingName
  | expectingColon
  | expectingComma
  | unterminatedString
  | controlCharacter
  | unknownEscape
  | malformedUnit
  | extraData
deriving DecidableEq, Repr

/-- Why a text is refused. A malformed text is known by what is left of it where the fault lies. -/
inductive Failure where
  | malformed (cause : Cause) (rest : List Char)
  | longNumeral (digits : Nat)
deriving DecidableEq, Repr

def Cause.message : Cause → String
  | .byteOrderMark => "Unexpected UTF-8 BOM (decode using utf-8-sig)"
  | .expectingValue => "Expecting value"
  | .expectingName => "Expecting property name enclosed in double quotes"
  | .expectingColon => "Expecting ':' delimiter"
  | .expectingComma => "Expecting ',' delimiter"
  | .unterminatedString => "Unterminated string starting at"
  | .controlCharacter => "Invalid control character at"
  | .unknownEscape => "Invalid \\escape"
  | .malformedUnit => "Invalid \\uXXXX escape"
  | .extraData => "Extra data"

/-- The message names the place of the fault by line, column and offset. -/
def Failure.message (text : List Char) : Failure → String
  | .malformed cause rest =>
    let offset := text.length - rest.length
    let place := Place.after (text.take offset)
    s!"{cause.message}: line {place.line} column {place.column} (char {offset})"
  | .longNumeral digits => longNumeralMessage digits

def isBlank (c : Char) : Bool := c == ' ' || c == '\t' || c == '\n' || c == '\r'

def skipBlanks (cs : List Char) : List Char := cs.dropWhile isBlank

/-- What follows `word` at the front of a text. -/
def after? (word cs : List Char) : Option (List Char) :=
  if word.isPrefixOf cs then some (cs.drop word.length) else none

/-! ### Strings -/

def escapedUnit? : Char → Option Nat
  | '\"' => some 0x22
  | '\\' => some 0x5C
  | '/' => some 0x2F
  | 'b' => some 0x08
  | 'f' => some 0x0C
  | 'n' => some 0x0A
  | 'r' => some 0x0D
  | 't' => some 0x09
  | _ => none

/-- The code units up to the closing quote and what follows it. `start` is the text from the opening quote
on, where a string without an end is reported. -/
def readUnits (start : List Char) : List Char → Except Failure (List Nat × List Char)
  | [] => .error (.malformed .unterminatedString start)
  | '\\' :: [] => .error (.malformed .unterminatedString start)
  | '\\' :: 'u' :: digits => match digits with
    | a :: b :: c :: d :: e :: rest =>
      if [a, b, c, d].all isHexadecimal then do
        let (units, rest) ← readUnits start (e :: rest)
        return (number 16 [a, b, c, d] :: units, rest)
      else .error (.malformed .malformedUnit ('u' :: digits))
    | _ => .error (.malformed .malformedUnit ('u' :: digits))
  | '\\' :: c :: rest => match escapedUnit? c with
    | some unit => do
      let (units, rest) ← readUnits start rest
      return (unit :: units, rest)
    | none => .error (.malformed .unknownEscape ('\\' :: c :: rest))
  | c :: rest =>
    if c = '\"' then .ok ([], rest)
    else if c.toNat < 0x20 then .error (.malformed .controlCharacter (c :: rest))
    else do
      let (units, rest) ← readUnits start rest
      return (c.toNat :: units, rest)

def readString (start rest : List Char) : Except Failure (String × List Char) := do
  let (units, rest) ← readUnits start rest
  return (String.ofList (joinSurrogates units), rest)

/-! ### Numbers and words -/

/-- The digits after a point, if a point and a digit follow. -/
def fraction? : List Char → Option (List Char × List Char)
  | '.' :: rest =>
    let digits := rest.takeWhile isDecimal
    if digits.isEmpty then none else some (digits, rest.dropWhile isDecimal)
  | _ => none

/-- The power of ten after the letter E, if digits follow it. -/
def power? : List Char → Option (Int × List Char)
  | c :: rest =>
    if c = 'e' ∨ c = 'E' then
      let (negative, rest) := match rest with
        | '-' :: rest => (true, rest)
        | '+' :: rest => (false, rest)
        | rest => (false, rest)
      let digits := rest.takeWhile isDecimal
      if digits.isEmpty then none
      else
        let n : Int := number 10 digits
        some (if negative then -n else n, rest.dropWhile isDecimal)
    else none
  | [] => none

/-- The digits before the point: a single zero, or digits that start with another. -/
def whole? : List Char → Option (List Char × List Char)
  | '0' :: rest => some (['0'], rest)
  | cs =>
    let digits := cs.takeWhile isDecimal
    if digits.isEmpty then none else some (digits, cs.dropWhile isDecimal)

def readNumber (negative : Bool) (start cs : List Char) : Except Failure (Value × List Char) :=
  match whole? cs with
  | none => .error (.malformed .expectingValue start)
  | some (whole, rest) =>
    let (part, rest, fractional) := match fraction? rest with
      | some (digits, rest) => (digits, rest, true)
      | none => ([], rest, false)
    let (power, rest, scaled) := match power? rest with
      | some (power, rest) => (power, rest, true)
      | none => (0, rest, false)
    if fractional || scaled then
      let x := Decimal.toFloat (number 10 (whole ++ part)) (power - part.length)
      .ok (.float (if negative then -x else x), rest)
    else if maxDigits < whole.length then .error (.longNumeral whole.length)
    else
      let n : Int := number 10 whole
      .ok (.int (if negative then -n else n), rest)

/-- The words that are values. -/
def words : List (String × Value) :=
  [("null", .null), ("true", .bool true), ("false", .bool false), ("NaN", .nan 0),
   ("Infinity", .float (1.0 / 0.0)), ("-Infinity", .float (-1.0 / 0.0))]

/-- A word or a number. -/
def readAtom (cs : List Char) : Except Failure (Value × List Char) :=
  match words.findSome? fun (word, v) => (after? word.toList cs).map (v, ·) with
  | some found => .ok found
  | none => match cs with
    | '-' :: rest => readNumber true cs rest
    | _ => readNumber false cs cs

/-! ### Values -/

/-- The map of members as they were written. -/
def collect (members : List (String × Value)) : Value :=
  .map (members.foldl (fun found (name, v) => putMember (· == ·) found (.text name) v) [])

mutual

/-- A value at the front of a text and what follows it, nested at most `depth` deep. -/
def readValue : Nat → List Char → Except Failure (Value × List Char)
  | 0, cs => .error (.malformed .expectingValue cs)
  | depth + 1, cs => match cs with
    | '\"' :: rest => do
      let (s, rest) ← readString cs rest
      return (.text s, rest)
    | '{' :: rest => match skipBlanks rest with
      | '}' :: rest => .ok (.map [], rest)
      | rest => do
        let (members, rest) ← readMembers depth rest
        return (collect members, rest)
    | '[' :: rest => match skipBlanks rest with
      | ']' :: rest => .ok (.list [], rest)
      | rest => do
        let (items, rest) ← readItems depth rest
        return (.list items, rest)
    | _ => readAtom cs

/-- The items of a list from the first one to the closing bracket. -/
def readItems : Nat → List Char → Except Failure (List Value × List Char)
  | 0, cs => .error (.malformed .expectingValue cs)
  | depth + 1, cs => do
    let (v, rest) ← readValue depth cs
    match skipBlanks rest with
    | ']' :: rest => return ([v], rest)
    | ',' :: rest => do
      let (items, rest) ← readItems depth (skipBlanks rest)
      return (v :: items, rest)
    | rest => .error (.malformed .expectingComma rest)

/-- The members of a map from the first name to the closing brace. -/
def readMembers : Nat → List Char → Except Failure (List (String × Value) × List Char)
  | 0, cs => .error (.malformed .expectingName cs)
  | depth + 1, cs => match cs with
    | '\"' :: rest => do
      let (name, rest) ← readString cs rest
      match skipBlanks rest with
      | ':' :: rest => do
        let (v, rest) ← readValue depth (skipBlanks rest)
        match skipBlanks rest with
        | '}' :: rest => return ([(name, v)], rest)
        | ',' :: rest => do
          let (members, rest) ← readMembers depth (skipBlanks rest)
          return ((name, v) :: members, rest)
        | rest => .error (.malformed .expectingComma rest)
      | rest => .error (.malformed .expectingColon rest)
    | _ => .error (.malformed .expectingName cs)

end

/-- The value that a text stands for. Every two steps into the value use up a character, so twice the
length of the text is deep enough. -/
def read (cs : List Char) : Except Failure Value := do
  if cs.head? = some (Char.ofNat 0xFEFF) then throw (.malformed .byteOrderMark cs)
  let (v, rest) ← readValue (2 * cs.length + 2) (skipBlanks cs)
  let rest := skipBlanks rest
  if rest.isEmpty then return v else throw (.malformed .extraData rest)

end ShapeTables.Json
