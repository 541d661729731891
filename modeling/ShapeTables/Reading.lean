import ShapeTables.Decimal.Shortest
import ShapeTables.Fault
import ShapeTables.Text.Integer

/-! Reading values into types. A reading either succeeds or is refused with all faults in document order;
readings of independent parts are joined so that no fault hides another. One refusal carries no fault: a list
or a map stands where a name is looked up. -/
namespace ShapeTables

inductive Refusal where
  | faults (found : List Fault)
  | unhashable
deriving DecidableEq, Repr

abbrev Reading := Except Refusal

namespace Reading

def fault (cause : Fault.Cause) : Reading α := .error (.faults [⟨[], cause⟩])

/-- The faults of two refusals in order; a look-up that failed outweighs them. -/
def join : Refusal → Refusal → Refusal
  | .faults xs, .faults ys => .faults (xs ++ ys)
  | _, _ => .unhashable

/-- Both parts, or the faults of both. -/
def both (a : Reading α) (b : Reading β) : Reading (α × β) :=
  match a, b with
  | .ok x, .ok y => .ok (x, y)
  | .ok _, .error e => .error e
  | .error e, .ok _ => .error e
  | .error e, .error f => .error (join e f)

/-- A part read one step below. -/
def under (step : Step) : Reading α → Reading α
  | .ok x => .ok x
  | .error (.faults found) => .error (.faults (found.map fun f => { f with loc := step :: f.loc }))
  | .error .unhashable => .error .unhashable

def cons (head : Reading α) (tail : Reading (List α)) : Reading (List α) :=
  (both head tail).map fun (x, xs) => x :: xs

/-- The items from `start` on, each under its index. -/
def itemsFrom (read : Value → Reading α) (start : Nat) : List Value → Reading (List α)
  | [] => .ok []
  | v :: rest => cons ((read v).under (.index start)) (itemsFrom read (start + 1) rest)

def list (read : Value → Reading α) : Value → Reading (List α)
  | .list items => itemsFrom read 0 items
  | _ => fault .notList

/-- A value that may be null. -/
def nullable (read : Value → Reading α) : Value → Reading (Option α)
  | .null => .ok none
  | v => (read v).map some

/-- A text, also as its octets in UTF-8. -/
def textOf : Scalar → Reading String
  | .text s => .ok s
  | .bytes octets => match String.fromUTF8? ⟨octets.toArray⟩ with
    | some s => .ok s
    | none => fault .notUtf8
  | _ => fault .notText

def text : Value → Reading String
  | .scalar s => textOf s
  | _ => fault .notText

def among (choices : List (String × α)) : Value → Reading α
  | .text s => match choices.lookup s with
    | some x => .ok x
    | none => fault (.notAmong (choices.map Prod.fst))
  | _ => fault (.notAmong (choices.map Prod.fst))

/-- A field that has to be there. -/
def required (members : List (Scalar × Value)) (name : String) (read : Value → Reading α) : Reading α :=
  match member? members name with
  | some v => (read v).under (.name name)
  | none => (fault .missing).under (.name name)

/-- A field with a value to take when it is absent. -/
def optional (members : List (Scalar × Value)) (name : String) (absent : α) (read : Value → Reading α) :
    Reading α :=
  match member? members name with
  | some v => (read v).under (.name name)
  | none => .ok absent

/-- The words and numbers that stand for a truth value. -/
def boolWords : List (String × Bool) :=
  [("0", false), ("off", false), ("f", false), ("false", false), ("n", false), ("no", false),
   ("1", true), ("on", true), ("t", true), ("true", true), ("y", true), ("yes", true)]

/-- The signed numbers of 64 bits lie below this, and none of them below its negative. -/
def wordBound : Int := Int.pow 2 63

/-- Zero and one are truth values; other numbers are unreadable ones, as long as they have 64 bits. -/
def boolOfInt (n : Int) : Reading Bool :=
  if n = 0 then .ok false
  else if n = 1 then .ok true
  else if -wordBound ≤ n ∧ n < wordBound then fault .unreadableBool
  else fault .notBool

def bool : Value → Reading Bool
  | .bool b => .ok b
  | .int n => boolOfInt n
  | .float x => match Decimal.toInt? x with
    | some n => boolOfInt n
    | none => fault .notBool
  | .text s => match boolWords.lookup (String.ofList (s.toList.map Char.toLower)) with
    | some b => .ok b
    | none => fault .unreadableBool
  | _ => fault .notBool

/-- The integer that a double is, within the signed numbers of 64 bits. -/
def intOfFloat (x : Float) : Reading Int :=
  match Decimal.toInt? x with
  | some n => if -wordBound < n ∧ n < wordBound then .ok n else fault .longInt
  | none => if (Decimal.Binary.ofFloat? x).isSome then fault .fractionalInt else fault .infiniteInt

/-- White space around a number; the information separators do not count. -/
def isSpace (c : Char) : Bool := Text.isBlank c && !(0x1C ≤ c.toNat && c.toNat ≤ 0x1F)

/-- A numeral from its first digit that counts on, after zeros and underscores; `last` is the one of these that
stands right before. The zero before a point stays, and so does the last of them if nothing follows. -/
def afterZeros? (last : Char) : List Char → Option (List Char)
  | [] => some [last]
  | c :: rest =>
    if c = '0' ∨ c = '_' then afterZeros? c rest
    else if '1' ≤ c ∧ c ≤ '9' then some (c :: rest)
    else if c = '.' then some (last :: c :: rest)
    else none

/-- A numeral without zeros in front, if it starts with a digit or a minus sign. -/
def dropZeros? : List Char → Option (List Char)
  | '0' :: rest => afterZeros? '0' rest
  | c :: rest => if ('1' ≤ c ∧ c ≤ '9') ∨ c = '-' then some (c :: rest) else none
  | [] => none

/-- A numeral without a plus sign, which no minus sign may follow. -/
def dropPlus? : List Char → Option (List Char)
  | '+' :: '-' :: _ => none
  | '+' :: rest => some rest
  | cs => some cs

/-- A numeral without a point and zeros at its end. -/
def wholePart (cs : List Char) : List Char :=
  match cs.dropWhile (· ≠ '.') with
  | '.' :: zeros => if zeros.all (· = '0') then cs.takeWhile (· ≠ '.') else cs
  | _ => cs

/-- A numeral without its underscores, unless two are side by side or one is at an end. -/
def ungrouped (cs : List Char) : List Char :=
  if cs.head? = some '_' ∨ cs.getLast? = some '_' ∨ ('_', '_') ∈ cs.zip (cs.drop 1) then cs
  else cs.filter (· ≠ '_')

/-- The integer of a numeral: a minus sign, then digits of which the first is a zero only if it is the last. -/
def intOfNumeral (cs : List Char) : Reading Int :=
  let negative := cs.head? = some '-'
  let digits := if negative then cs.drop 1 else cs
  let run := digits.takeWhile Text.isDecimal
  if run.head? = some '0' ∧ 1 < run.length then fault .unreadableInt
  else if Text.maxDigits < cs.length - digits.length + run.length then fault .longInt
  else if run.isEmpty ∨ run.length < digits.length then fault .unreadableInt
  else
    let n : Int := Text.number 10 run
    .ok (if negative then -n else n)

def intOfText (s : String) : Reading Int :=
  match (dropPlus? (Text.trimChars isSpace s.toList)).bind dropZeros? with
  | some cs => intOfNumeral (ungrouped (wholePart cs))
  | none => fault .unreadableInt

/-- An integer, also as a truth value, as a double without a fraction, or as a text. -/
def int : Value → Reading Int
  | .int n => .ok n
  | .bool b => .ok (if b then 1 else 0)
  | .float x => intOfFloat x
  | .nan _ => fault .infiniteInt
  | .text s => intOfText s
  | _ => fault .notInt

end Reading

end ShapeTables
