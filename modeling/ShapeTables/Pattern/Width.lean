/-! Widths: how many characters a part of a pattern matches at least and at most. The width of a sequence as a
whole goes up to a bound that stands for no limit; the least width stops one short of it, so that a part
without limit has no fixed width. -/
namespace ShapeTables.Pattern

structure Width where
  least : Nat
  most : Nat
deriving DecidableEq, Repr, Inhabited

namespace Width

def bound : Nat := Nat.pow 2 32 - 1

def zero : Width := ⟨0, 0⟩

def one : Width := ⟨1, 1⟩

/-- The width of a sequence as a whole. -/
def clamp (w : Width) : Width := ⟨min w.least (bound - 1), min w.most bound⟩

/-- One part after another. -/
def add (v w : Width) : Width := ⟨v.least + w.least, v.most + w.most⟩

/-- One part or another. -/
def either (v w : Width) : Width := ⟨min v.least w.least, max v.most w.most⟩

/-- A part repeated; no upper count is no limit. -/
def times (w : Width) (least : Nat) (most : Option Nat) : Width :=
  ⟨w.clamp.least * least, w.clamp.most * most.getD bound⟩

/-- Whether a part matches one number of characters only. -/
def isFixed (w : Width) : Bool := w.least == w.most

/-- Whether a part is too wide to be looked back over. -/
def isWide (w : Width) : Bool := Nat.pow 2 31 ≤ w.least

end Width

end ShapeTables.Pattern
