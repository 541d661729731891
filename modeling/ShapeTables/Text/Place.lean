/-! Places in a text by line and column, both counted from one. -/
namespace ShapeTables.Text

structure Place where
  line : Nat
  column : Nat
deriving DecidableEq, Repr

/-- The place right after the given characters. -/
def Place.after (cs : List Char) : Place where
  line := cs.count '\n' + 1
  column := (cs.reverse.takeWhile (· ≠ '\n')).length + 1

/-- The characters with every line end written as one line feed. -/
def unifyLineEnds : List Char → List Char
  | '\r' :: '\n' :: rest => '\n' :: unifyLineEnds rest
  | '\r' :: rest => '\n' :: unifyLineEnds rest
  | c :: rest => c :: unifyLineEnds rest
  | [] => []

end ShapeTables.Text
