/-! Moments: calendar dates, and dates with the time of a clock. A clock may say how far it is ahead of universal
time; those that do are compared by the instant that they show, those that do not only with one another. -/
namespace ShapeTables

structure Clock where
  hour : Nat
  minute : Nat
  second : Nat
  /-- Millionths of a second. -/
  micro : Nat
  /-- The seconds that the clock is ahead of universal time, if it says so. -/
  offset : Option Int
deriving DecidableEq, Repr

structure Moment where
  year : Nat
  month : Nat
  day : Nat
  clock : Option Clock
deriving DecidableEq, Repr

namespace Moment

/-! ### The calendar -/

def isLeap (year : Nat) : Bool := year % 4 == 0 && (year % 100 != 0 || year % 400 == 0)

def daysIn (year month : Nat) : Nat :=
  if month = 2 then (if isLeap year then 29 else 28)
  else if month = 4 ∨ month = 6 ∨ month = 9 ∨ month = 11 then 30 else 31

/-- The days before a month of a year. -/
def daysBefore (year : Nat) : Nat → Nat
  | 0 | 1 => 0
  | month + 1 => daysBefore year month + daysIn year month

/-- The number of a day, the first day of year one being the first. -/
def dayNumber (m : Moment) : Nat :=
  let years := m.year - 1
  365 * years + years / 4 - years / 100 + years / 400 + daysBefore m.year m.month + m.day

/-! ### Order -/

/-- Moments of one scale can be compared. -/
inductive Scale where
  | date
  /-- Clocks that do not say how far they are ahead. -/
  | zoneless
  | instant
deriving DecidableEq, Repr

/-- Millionths of a second since midnight of the day of the clock. -/
def Clock.micros (c : Clock) : Int :=
  ((c.hour * 60 + c.minute) * 60 + c.second) * 1000000 + c.micro

/-- The scale of a moment and its place on it. -/
def place (m : Moment) : Scale × Int :=
  let day : Int := m.dayNumber
  match m.clock with
  | none => (.date, day)
  | some c =>
    let micros := day * 86400000000 + Clock.micros c
    match c.offset with
    | none => (.zoneless, micros)
    | some ahead => (.instant, micros - ahead * 1000000)

/-! ### Texts -/

/-- A number with zeros in front, so that it has at least `width` digits. -/
def padded (width n : Nat) : String :=
  let digits := Nat.toDigits 10 n
  String.ofList (List.replicate (width - digits.length) '0' ++ digits)

def offsetIso (ahead : Int) : String :=
  let minutes := ahead.natAbs / 60
  (if ahead < 0 then "-" else "+") ++ padded 2 (minutes / 60) ++ ":" ++ padded 2 (minutes % 60)

def clockIso (c : Clock) : String :=
  "T" ++ padded 2 c.hour ++ ":" ++ padded 2 c.minute ++ ":" ++ padded 2 c.second ++
    (if c.micro = 0 then "" else "." ++ padded 6 c.micro) ++ (c.offset.map offsetIso).getD ""

/-- The text by ISO 8601. -/
def iso (m : Moment) : String :=
  padded 4 m.year ++ "-" ++ padded 2 m.month ++ "-" ++ padded 2 m.day ++ (m.clock.map clockIso).getD ""

/-- A duration in days and seconds, as messages show it. -/
def durationText (seconds : Int) : String :=
  let days := seconds / 86400
  let rest := seconds % 86400
  let parts := (if days = 0 then [] else [s!"days={days}"]) ++ (if rest = 0 then [] else [s!"seconds={rest}"])
  "datetime.timedelta(" ++ (if parts.isEmpty then "0" else ", ".intercalate parts) ++ ")"

/-- The parts of a clock as messages show them: seconds and their millionths only if something is there. -/
def clockParts (c : Clock) : List String :=
  let seconds := if c.micro ≠ 0 then [c.second, c.micro] else if c.second ≠ 0 then [c.second] else []
  ([c.hour, c.minute] ++ seconds).map toString ++ match c.offset with
    | none => []
    | some 0 => ["tzinfo=datetime.timezone.utc"]
    | some ahead => [s!"tzinfo=datetime.timezone({durationText ahead})"]

/-- The moment as messages show it. -/
def shown (m : Moment) : String :=
  let date := [m.year, m.month, m.day].map toString
  match m.clock with
  | none => "datetime.date(" ++ ", ".intercalate date ++ ")"
  | some c => "datetime.datetime(" ++ ", ".intercalate (date ++ clockParts c) ++ ")"

end Moment

end ShapeTables
