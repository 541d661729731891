/-! The shortest decimal of a double. A positive double is m · 2 ^ q; the reals that round to it form an
interval, ends included exactly when m is even. Grids of decimals d · 10 ^ k are tried from the coarsest
that has a point below the double, each finer by a factor of ten; on the first grid with a point in the
interval the point nearer to the double is taken, of two equally near ones the even one. On each grid only
the two neighbours of the double have to be looked at, for a point of the grid farther away is in the
interval only if a neighbour on its side is. -/
namespace ShapeTables.Decimal

/-- The double `significand · 2 ^ exponent`. -/
structure Binary where
  significand : Nat
  exponent : Int
deriving Repr, DecidableEq

/-- The decimal `digits · 10 ^ exponent`. -/
structure Numeral where
  digits : Nat
  exponent : Int
deriving Repr, DecidableEq

/-- The magnitude of a finite double; nothing for the infinities and for what is not a number. -/
def Binary.ofFloat? (x : Float) : Option Binary :=
  let bits : Nat := x.toBits.toNat
  let field : Nat := bits / Nat.pow 2 52 % Nat.pow 2 11
  let fraction : Nat := bits % Nat.pow 2 52
  if field = 2047 then none
  else if field = 0 then some ⟨fraction, -1074⟩
  else some ⟨fraction + Nat.pow 2 52, (field : Int) - 1075⟩

/-- The natural number that a magnitude is, if it is one. -/
def Binary.toNat? (b : Binary) : Option Nat :=
  let den := Nat.pow 2 (-b.exponent).toNat
  if b.significand % den = 0 then some (b.significand / den * Nat.pow 2 b.exponent.toNat) else none

/-- Whether the sign bit of a double is set. -/
def isNegative (x : Float) : Bool := decide (x.toBits.toNat / Nat.pow 2 63 = 1)

/-- The integer that a double is, if it is one. -/
def toInt? (x : Float) : Option Int :=
  ((Binary.ofFloat? x).bind Binary.toNat?).map fun n => if isNegative x then -(n : Int) else n

/-- The number of decimal digits, one for zero. -/
def digitCount (n : Nat) : Nat := (Nat.toDigits 10 n).length

/-- The power of ten of the first digit of a positive double. -/
def Binary.leadingPower (b : Binary) : Int :=
  let num := b.significand * Nat.pow 2 b.exponent.toNat
  let den := Nat.pow 2 (-b.exponent).toNat
  if den ≤ num then (digitCount (num / den) : Int) - 1
  else -(digitCount ((den + num - 1) / num - 1) : Int)

/-- A grid `10 ^ k` seen from a double, all scaled to natural numbers: a grid point `d` is at `d * step`,
the double at `4 * significand * unit`, the ends of its interval at `low * unit` and `high * unit`. -/
structure Grid where
  step : Nat
  unit : Nat
  low : Nat
  high : Nat

/-- The lower half of the interval is half as wide where the double is the least of its power of two. -/
def Binary.grid (b : Binary) (k : Int) : Grid where
  step := 4 * Nat.pow 10 k.toNat * Nat.pow 2 (-b.exponent).toNat
  unit := Nat.pow 2 b.exponent.toNat * Nat.pow 10 (-k).toNat
  low := 4 * b.significand - (if b.significand = Nat.pow 2 52 ∧ -1074 < b.exponent then 1 else 2)
  high := 4 * b.significand + 2

/-- Whether grid point `d` rounds to the double. -/
def Binary.covers (b : Binary) (g : Grid) (d : Nat) : Bool :=
  if b.significand % 2 = 0 then g.low * g.unit ≤ d * g.step && d * g.step ≤ g.high * g.unit
  else g.low * g.unit < d * g.step && d * g.step < g.high * g.unit

/-- The nearest point of the grid among the double's two neighbours that round to it. -/
def Binary.nearest? (b : Binary) (g : Grid) : Option Nat :=
  let place := 4 * b.significand * g.unit
  let below := place / g.step
  match b.covers g below, b.covers g (below + 1) with
  | true, true =>
    let down := place - below * g.step
    let up := (below + 1) * g.step - place
    if down < up ∨ (down = up ∧ below % 2 = 0) then some below else some (below + 1)
  | true, false => some below
  | false, true => some (below + 1)
  | false, false => none

/-- The first hit on at most `count` grids from `10 ^ k` downwards. -/
def Binary.search (b : Binary) (k : Int) : Nat → Numeral
  | 0 => ⟨4 * b.significand * (b.grid k).unit / (b.grid k).step, k⟩
  | count + 1 => match b.nearest? (b.grid k) with
    | some d => ⟨d, k⟩
    | none => b.search (k - 1) count

/-- The decimal without its trailing zeros. -/
def Numeral.strip (d : Numeral) : Nat → Numeral
  | 0 => d
  | count + 1 =>
    if d.digits ≠ 0 ∧ d.digits % 10 = 0 then Numeral.strip ⟨d.digits / 10, d.exponent + 1⟩ count else d

/-- The shortest decimal that rounds to a positive double. Seventeen digits always suffice. -/
def Binary.shortest (b : Binary) : Numeral :=
  (b.search b.leadingPower 17).strip 17

end ShapeTables.Decimal
