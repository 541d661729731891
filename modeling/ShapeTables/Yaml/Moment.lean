import ShapeTables.Moment
import ShapeTables.Text.Digits
import ShapeTables.Yaml.Failure

/-! Spellings of moments. A date is written by year, month and day; a time may follow it, with a fraction of a
second and a zone. What is spelled like a moment need not be one: every part has its range. -/
namespace ShapeTables.Yaml

open Text

def isSign (c : Char) : Bool := c == '-' || c == '+'

namespace Moment

/-! ### Spelling -/

/-- Up to `most` digits at the front. -/
def takeDigits (most : Nat) (cs : List Char) : List Char := (cs.take most).takeWhile isDecimal

/-- A number of `least` to `most` digits and what follows it. -/
def readDigits? (least most : Nat) (cs : List Char) : Option (Nat × List Char) :=
  let digits := takeDigits most cs
  if digits.length < least then none else some (number 10 digits, cs.drop digits.length)

/-- What follows a character. -/
def after? (c : Char) : List Char → Option (List Char)
  | d :: rest => if d = c then some rest else none
  | [] => none

/-- Millionths from the digits after the point, of which six count. -/
def micros (digits : List Char) : Nat :=
  let six := digits.take 6
  number 10 six * Nat.pow 10 (6 - six.length)

def isInline (c : Char) : Bool := c == ' ' || c == '\t'

/-- The seconds of hours and minutes ahead of universal time, or behind it. -/
def offsetOf (behind : Bool) (hours minutes : Nat) : Int :=
  let n : Int := hours * 3600 + minutes * 60
  if behind then -n else n

/-- The offset that ends a text, if the text is not at its end. -/
def readOffset? (cs : List Char) : Option (Option Int) :=
  if cs.isEmpty then some none
  else match cs.dropWhile isInline with
    | ['Z'] => some (some 0)
    | sign :: rest =>
      if !isSign sign then none
      else do
        let (hours, rest) ← readDigits? 1 2 rest
        if rest.isEmpty then return some (offsetOf (sign == '-') hours 0)
        let (minutes, rest) ← readDigits? 2 2 (← after? ':' rest)
        if rest.isEmpty then return some (offsetOf (sign == '-') hours minutes) else none
    | [] => none

def readClock? (cs : List Char) : Option Clock := do
  let cs ← match cs with
    | c :: rest =>
      if c = 'T' ∨ c = 't' then some rest
      else if isInline c then some (rest.dropWhile isInline)
      else none
    | [] => none
  let (hour, cs) ← readDigits? 1 2 cs
  let (minute, cs) ← readDigits? 2 2 (← after? ':' cs)
  let (second, cs) ← readDigits? 2 2 (← after? ':' cs)
  let (micro, cs) := match cs with
    | '.' :: rest => (micros (rest.takeWhile isDecimal), rest.dropWhile isDecimal)
    | cs => (0, cs)
  let offset ← readOffset? cs
  return ⟨hour, minute, second, micro, offset⟩

def read? (cs : List Char) : Option ShapeTables.Moment := do
  let (year, cs) ← readDigits? 4 4 cs
  let (month, cs) ← readDigits? 1 2 (← after? '-' cs)
  let (day, cs) ← readDigits? 1 2 (← after? '-' cs)
  if cs.isEmpty then return ⟨year, month, day, none⟩
  let clock ← readClock? cs
  return ⟨year, month, day, some clock⟩

/-- Whether a plain scalar is spelled like a point in time. A date alone has two digits for month and day. -/
def isSpelling (cs : List Char) : Bool :=
  match read? cs with
  | some m => m.clock.isSome || cs.length == 10
  | none => false

/-! ### Ranges -/

/-- The seconds of a day. -/
def daySeconds : Int := 86400

/-- What is wrong with the offset, then with the parts in order. -/
def problem? (m : ShapeTables.Moment) : Option String :=
  let offset := match m.clock.bind (·.offset) with
    | some ahead =>
      if -daySeconds < ahead ∧ ahead < daySeconds then none
      else some ("offset must be a timedelta strictly between -timedelta(hours=24) and timedelta(hours=24), not " ++
        Moment.durationText ahead ++ ".")
    | none => none
  let date :=
    if m.year = 0 then some "year 0 is out of range"
    else if m.month = 0 ∨ 12 < m.month then some "month must be in 1..12"
    else if m.day = 0 ∨ Moment.daysIn m.year m.month < m.day then some "day is out of range for month"
    else none
  let time := m.clock.bind fun c =>
    if 23 < c.hour then some "hour must be in 0..23"
    else if 59 < c.minute then some "minute must be in 0..59"
    else if 59 < c.second then some "second must be in 0..59"
    else none
  offset.or (date.or time)

/-- The moment that a scalar stands for. -/
def ofText (s : String) : Except Failure ShapeTables.Moment :=
  let cs := s.toList
  let cs := if cs.getLast? = some '\n' then cs.dropLast else cs
  match read? cs with
  | none => .error .notMoment
  | some m => match problem? m with
    | some message => .error (.outOfRange message)
    | none => .ok m

end Moment

end ShapeTables.Yaml
