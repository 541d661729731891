import ShapeTables.Decimal.Shortest
import ShapeTables.Value

/-! Equality and order of values. Numbers are compared by value, truth values among them as zero and one, and
moments by their place on the scale that they share. Only values of one kind have an order, and not all of
them: where there is none, a comparison has no answer. -/
namespace ShapeTables

namespace Scalar

/-- A truth value as the number that it counts as. -/
def number : Scalar → Scalar
  | .bool b => .int (if b then 1 else 0)
  | s => s

/-- Whether two scalars are equal, and so the same key of a map. -/
def alike (a b : Scalar) : Bool :=
  match a.number, b.number with
  | .int m, .int n => m == n
  | .int n, .float x | .float x, .int n => Decimal.toInt? x == some n
  | .float x, .float y => x == y
  | .moment s, .moment t => s.place == t.place
  | a, b => a == b

/-- The order of an integer and a double. -/
def compareDouble (n : Int) (x : Float) : Ordering :=
  match Decimal.Binary.ofFloat? x with
  | none => if Decimal.isNegative x then .gt else .lt
  | some b =>
    let magnitude : Int := b.significand * Nat.pow 2 b.exponent.toNat
    compare (n * Nat.pow 2 (-b.exponent).toNat) (if Decimal.isNegative x then -magnitude else magnitude)

/-- Whether a scalar is below another; nothing is below or above what is not a number. -/
def below? (a b : Scalar) : Option Bool :=
  match a.number, b.number with
  | .int m, .int n => some (m < n)
  | .int n, .float x => some (compareDouble n x == .lt)
  | .float x, .int n => some (compareDouble n x == .gt)
  | .float x, .float y => some (x < y)
  | .nan _, .int _ | .nan _, .float _ | .nan _, .nan _ | .int _, .nan _ | .float _, .nan _ => some false
  | .text s, .text t => some (s < t)
  | .bytes s, .bytes t => some (s < t)
  | .moment s, .moment t => if s.place.1 = t.place.1 then some (s.place.2 < t.place.2) else none
  | _, _ => none

/-- Whether every scalar of a set is in another. -/
def areIn (members others : List Scalar) : Bool := members.all fun s => others.any s.alike

end Scalar

namespace Value

mutual

/-- Whether two values are equal; the order of members is of no account. -/
def alike : Value → Value → Bool
  | .scalar s, .scalar t => s.alike t
  | .list xs, .list ys => itemsAlike xs ys
  | .map ms, .map ns => ms.length == ns.length && membersAlike ms ns
  | .pair v w, .pair x y => alike v x && alike w y
  | .set s, .set t => s.length == t.length && Scalar.areIn s t
  | .ancestor, .ancestor => true
  | _, _ => false

def itemsAlike : List Value → List Value → Bool
  | [], [] => true
  | x :: xs, y :: ys => alike x y && itemsAlike xs ys
  | _, _ => false

/-- Whether every member is in the other map. -/
def membersAlike : List (Scalar × Value) → List (Scalar × Value) → Bool
  | [], _ => true
  | (key, v) :: rest, ns => (match ns.find? fun (k, _) => k.alike key with
      | some (_, w) => alike v w
      | none => false) && membersAlike rest ns

end

mutual

/-- Whether a value is below another. Lists are compared at the first items that differ, and sets by whether
the other one has more. -/
def below? : Value → Value → Option Bool
  | .scalar s, .scalar t => s.below? t
  | .list xs, .list ys => itemsBelow? xs ys
  | .pair v w, .pair x y =>
    if !alike v x then below? v x else if !alike w y then below? w y else some false
  | .set s, .set t => some (s.length < t.length && Scalar.areIn s t)
  | _, _ => none

def itemsBelow? : List Value → List Value → Option Bool
  | _, [] => some false
  | [], _ :: _ => some true
  | x :: xs, y :: ys => if alike x y then itemsBelow? xs ys else below? x y

end

end Value

end ShapeTables
