import ShapeTables.Value.Order

/-! Distinct items. Items are put in order first, and then only neighbours are compared; items that have no order
are compared pair by pair. The two ways can differ where the order takes items for equal that JSON Schema tells
apart, such as a truth value in a list and its number, so the order is settled to the last step: a run at the
front that is in order stays, and every further item goes right after the last one that it is not below. -/
namespace ShapeTables.MetaSchema

/-! ### Sameness -/

/-- Whether two scalars are the same: a truth value is the same as no number. -/
def sameScalar : Scalar → Scalar → Bool
  | .bool a, .bool b => a == b
  | .bool _, _ | _, .bool _ => false
  | s, t => s.alike t

/-- Whether octets are the same as the items of a list. -/
def sameOctets (octets : List UInt8) (items : List Value) : Bool :=
  octets.length == items.length && (octets.zip items).all fun (octet, v) => match v with
    | .scalar s => sameScalar (.int octet.toNat) s
    | _ => false

mutual

/-- Whether two values are the same to JSON Schema. Sequences are so by their items, of whatever kind the
sequences are. -/
def same : Value → Value → Bool
  | .scalar (.bytes octets), .list items | .list items, .scalar (.bytes octets) => sameOctets octets items
  | .scalar (.bytes octets), .pair x y | .pair x y, .scalar (.bytes octets) => sameOctets octets [x, y]
  | .scalar s, .scalar t => sameScalar s t
  | .list xs, .list ys => sameItems xs ys
  | .list [v, w], .pair x y => same v x && same w y
  | .pair v w, .list [x, y] => same v x && same w y
  | .pair v w, .pair x y => same v x && same w y
  | .map ms, .map ns => ms.length == ns.length && sameMembers ms ns
  | .set s, .set t => s.length == t.length && Scalar.areIn s t
  | .ancestor, .ancestor => true
  | _, _ => false

def sameItems : List Value → List Value → Bool
  | [], [] => true
  | x :: xs, y :: ys => same x y && sameItems xs ys
  | _, _ => false

/-- Whether every member is the same in the other map. -/
def sameMembers : List (Scalar × Value) → List (Scalar × Value) → Bool
  | [], _ => true
  | (key, v) :: rest, ns => (match ns.find? fun (k, _) => k.alike key with
      | some (_, w) => same v w
      | none => false) && sameMembers rest ns

end

/-! ### Sorting -/

section Sorting

variable {α : Type}

/-- The run that goes on after `last`, every item of it below the one before or none of them, and the rest. -/
def run? (below? : α → α → Option Bool) (descending : Bool) (last : α) : List α → Option (List α × List α)
  | [] => some ([], [])
  | x :: rest => do
    if (← below? x last) != descending then return ([], x :: rest)
    let (run, rest) ← run? below? descending x rest
    return (x :: run, rest)

/-- The place for an item among sorted ones, from `low` to `high`, by halving. -/
def place? (below? : α → α → Option Bool) (sorted : List α) (item : α) (low high : Nat) : Option Nat :=
  if low < high then
    let middle := low + (high - low) / 2
    match sorted[middle]? with
    | none => none
    | some other => match below? item other with
      | none => none
      | some true => place? below? sorted item low middle
      | some false => place? below? sorted item (middle + 1) high
  else some low
termination_by high - low

/-- Puts items one after another in their places among sorted ones. -/
def insertAll? (below? : α → α → Option Bool) (sorted : List α) : List α → Option (List α)
  | [] => some sorted
  | x :: rest => do
    let place ← place? below? sorted x 0 sorted.length
    insertAll? below? (sorted.take place ++ x :: sorted.drop place) rest

/-- The items in order, if all comparisons that this takes have an answer. -/
def sorted? (below? : α → α → Option Bool) : List α → Option (List α)
  | x :: y :: rest => do
    let descending ← below? y x
    let (run, rest) ← run? below? descending y rest
    let run := x :: y :: run
    insertAll? below? (if descending then run.reverse else run) rest
  | items => some items

end Sorting

/-! ### Distinct items -/

/-- Whether an item is below another; a truth value is not a number here and has no order. -/
def itemBelow? : Value → Value → Option Bool
  | .bool _, _ | _, .bool _ => none
  | v, w => v.below? w

/-- Whether no item is the same as a later one. -/
def pairwiseDistinct : List Value → Bool
  | [] => true
  | v :: rest => !(rest.any (same v)) && pairwiseDistinct rest

/-- Whether a list has distinct items. -/
def areDistinct (items : List Value) : Bool :=
  match sorted? itemBelow? items with
  | some sorted => (sorted.zip (sorted.drop 1)).all fun (v, w) => !same v w
  | none => pairwiseDistinct items

end ShapeTables.MetaSchema
