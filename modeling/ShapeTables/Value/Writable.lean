import ShapeTables.Text.Integer
import ShapeTables.Value

/-! Values that can be written out. An integer with too many digits cannot, and no value can that holds one. -/
namespace ShapeTables

def Scalar.isWritable : Scalar → Bool
  | .int n => Text.isWritable n
  | _ => true

namespace Value

mutual

def isWritable : Value → Bool
  | .scalar s => s.isWritable
  | .list items => itemsWritable items
  | .map members => membersWritable members
  | .pair v w => isWritable v && isWritable w
  | .set members => members.all Scalar.isWritable
  | .ancestor => true

def itemsWritable : List Value → Bool
  | [] => true
  | v :: rest => isWritable v && itemsWritable rest

def membersWritable : List (Scalar × Value) → Bool
  | [] => true
  | (key, v) :: rest => key.isWritable && isWritable v && membersWritable rest

end

end Value

end ShapeTables
