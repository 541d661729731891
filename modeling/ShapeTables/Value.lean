import ShapeTables.Moment

/-! Document values. A document is what a JSON or YAML text holds: scalars, lists, and maps whose members
keep the order in which they were written. A map has each key once. JSON has only the first six kinds of
scalar, one of which is not a number, and only text keys (`Value.IsJson`); YAML adds the other scalars, any
scalar as a key, pairs, sets, and values that hold themselves. -/
namespace ShapeTables

inductive Scalar where
  | null
  | bool (b : Bool)
  | int (n : Int)
  | float (x : Float)
  /-- What is not a number. It equals nothing but itself, and those of different marks are different; all that
  are spelled by name have the mark zero. -/
  | nan (mark : Nat)
  | text (s : String)
  | moment (m : Moment)
  | bytes (octets : List UInt8)
deriving DecidableEq, Inhabited

inductive Value where
  | scalar (s : Scalar)
  | list (items : List Value)
  | map (members : List (Scalar × Value))
  | pair (first second : Value)
  /-- Scalars without order, each of them once. -/
  | set (members : List Scalar)
  /-- The value again that this place is in. -/
  | ancestor
deriving Inhabited

/-- The scalar of a double. -/
def Scalar.ofFloat (x : Float) : Scalar := if x.isNaN then .nan 0 else .float x

/-- The double that stands for what is not a number. -/
def notANumber : Float := 0.0 / 0.0

namespace Value

@[match_pattern] abbrev null : Value := .scalar .null
@[match_pattern] abbrev bool (b : Bool) : Value := .scalar (.bool b)
@[match_pattern] abbrev int (n : Int) : Value := .scalar (.int n)
@[match_pattern] abbrev float (x : Float) : Value := .scalar (.float x)
@[match_pattern] abbrev nan (mark : Nat) : Value := .scalar (.nan mark)
@[match_pattern] abbrev text (s : String) : Value := .scalar (.text s)

/-- A map with text keys. -/
def object (members : List (String × Value)) : Value :=
  .map (members.map fun (name, v) => (.text name, v))

def texts (names : List String) : Value := .list (names.map .text)

end Value

/-- The value at a text key. -/
def member? (members : List (Scalar × Value)) (name : String) : Option Value :=
  members.lookup (.text name)

/-- Puts a value at a key: in the place of the value that is there, whose key stays, else at the end. -/
def putMember (same : Scalar → Scalar → Bool) (members : List (Scalar × Value)) (key : Scalar) (v : Value) :
    List (Scalar × Value) :=
  match members with
  | [] => [(key, v)]
  | (k, w) :: rest => if same k key then (k, v) :: rest else (k, w) :: putMember same rest key v

namespace Value

def get? : Value → String → Option Value
  | .map members, name => member? members name
  | _, _ => none

/-- The items of a list. -/
def items? : Value → Option (List Value)
  | .list items => some items
  | _ => none

def text? : Value → Option String
  | .text s => some s
  | _ => none

end Value

def Scalar.IsJson : Scalar → Prop
  | .null | .bool _ | .int _ | .float _ | .nan _ | .text _ => True
  | .moment _ | .bytes _ => False

mutual

/-- The values of JSON: every key is a text that no other member has, every scalar is one of JSON's. -/
def Value.IsJson : Value → Prop
  | .scalar s => s.IsJson
  | .list items => allJson items
  | .map members => (members.map Prod.fst).Nodup ∧ membersJson members
  | .pair .. | .set _ | .ancestor => False

def allJson : List Value → Prop
  | [] => True
  | v :: rest => v.IsJson ∧ allJson rest

def membersJson : List (Scalar × Value) → Prop
  | [] => True
  | (key, v) :: rest => (∃ name, key = .text name) ∧ v.IsJson ∧ membersJson rest

end

end ShapeTables
