import ShapeTables.Text.Digits
import ShapeTables.Yaml.Moment
import ShapeTables.Yaml.Tag

/-! Tags of plain scalars. A plain scalar without a tag is null, a truth value, a number, a point in time or one
of two special keys if it is spelled like one, and a text otherwise. -/
namespace ShapeTables.Yaml

open Text

def trueWords : List String := ["yes", "true", "on"]

def falseWords : List String := ["no", "false", "off"]

/-- A word in lower case, with its first letter in upper case, and in upper case. -/
def spellings (word : String) : List String :=
  [word, word.capitalize, String.ofList (word.toList.map Char.toUpper)]

def dropSign : List Char → List Char
  | c :: rest => if isSign c then rest else c :: rest
  | [] => []

def isGrouped (c : Char) : Bool := isDecimal c || c == '_'

/-! ### Numbers -/

/-- A part in base sixty after a colon: one or two digits below sixty. -/
def isSixtieth : List Char → Bool
  | [c] => isDecimal c
  | [c, d] => '0' ≤ c && c ≤ '5' && isDecimal d
  | _ => false

/-- The parts between colons. -/
def colonParts : List Char → List (List Char)
  | [] => [[]]
  | c :: rest => match colonParts rest with
    | [] => [[c]]
    | part :: parts => if c = ':' then [] :: part :: parts else (c :: part) :: parts

/-- Digits with underscores among them, the first character being a digit. -/
def isGroupedNumber : List Char → Bool
  | [] => false
  | c :: rest => isDecimal c && rest.all isGrouped

def isSexagesimal (first : List Char) (rest : List (List Char)) : Bool :=
  isGroupedNumber first && !rest.isEmpty && rest.all isSixtieth

def isInteger (cs : List Char) : Bool :=
  match dropSign cs with
  | ['0'] => true
  | '0' :: 'b' :: rest => !rest.isEmpty && rest.all fun c => c == '0' || c == '1' || c == '_'
  | '0' :: 'x' :: rest => !rest.isEmpty && rest.all fun c => isHexadecimal c || c == '_'
  | '0' :: rest => rest.all fun c => ('0' ≤ c && c ≤ '7') || c == '_'
  | cs => isGroupedNumber cs || match colonParts cs with
    | first :: rest => isSexagesimal first rest
    | [] => false

/-- An exponent with its sign, or nothing. -/
def isExponent : List Char → Bool
  | [] => true
  | e :: sign :: digits => (e == 'e' || e == 'E') && isSign sign && !digits.isEmpty && digits.all isDecimal
  | _ => false

/-- What follows the point: digits, then an exponent. -/
def isFraction (cs : List Char) : Bool := isExponent (cs.dropWhile isGrouped)

/-- A number in base sixty whose last part has a point. -/
def isSexagesimalFraction (cs : List Char) : Bool :=
  match colonParts (cs.takeWhile (· ≠ '.')), cs.dropWhile (· ≠ '.') with
  | first :: rest, '.' :: part => isSexagesimal first rest && part.all isGrouped
  | _, _ => false

def isDouble (cs : List Char) : Bool :=
  (match cs with
    | '.' :: c :: rest => isDecimal c && isFraction (c :: rest)
    | _ => false) ||
  ([".nan", ".NaN", ".NAN"].map String.toList).contains cs ||
  ([".inf", ".Inf", ".INF"].map String.toList).contains (dropSign cs) ||
  (match (dropSign cs).dropWhile isGrouped with
    | '.' :: rest => isGroupedNumber ((dropSign cs).takeWhile isGrouped) && isFraction rest
    | _ => false) ||
  isSexagesimalFraction (dropSign cs)

/-! ### Tags -/

/-- The tag of a scalar by its spelling. -/
def spelledLike? (cs : List Char) : Option Tag :=
  let s := String.ofList cs
  if (trueWords ++ falseWords).any fun word => (spellings word).contains s then some .bool
  else if isDouble cs then some .float
  else if isInteger cs then some .int
  else if cs = ['<', '<'] then some .merge
  else if cs.isEmpty ∨ cs = ['~'] ∨ (spellings "null").contains s then some .null
  else if Moment.isSpelling cs then some .timestamp
  else if cs = ['='] then some .value
  else if cs = ['!'] ∨ cs = ['&'] ∨ cs = ['*'] then some (.unknown "tag:yaml.org,2002:yaml")
  else none

/-- The text without a line end at its end, unless it is nothing else. -/
def dropFinalBreak (cs : List Char) : List Char :=
  match cs.reverse with
  | '\n' :: c :: before => (c :: before).reverse
  | _ => cs

def implicitTag (s : String) : Tag := (spelledLike? (dropFinalBreak s.toList)).getD .str

end ShapeTables.Yaml
