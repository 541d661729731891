import ShapeTables.Text.Integer
import ShapeTables.Text.Quoted

/-! Why a YAML text has no value. Nearly always it breaks the grammar or has a value of the wrong kind, and all
of these count as one failure; a few values that are spelled like a number, a word or a date but stand for
none are told apart. The spelling of an integer is cut off in messages. -/
namespace ShapeTables.Yaml

inductive Failure where
  | malformed
  /-- An escape beyond the last character. -/
  | noCharacter
  /-- An escape beyond the range of signed numbers of 32 bits. -/
  | hugeCharacter
  /-- A power of sixty beyond the largest double. -/
  | hugePower
  | notInteger (radix : Nat) (text : String)
  | longNumeral (digits : Nat)
  | notDouble (text : String)
  /-- A number without any character after its sign. -/
  | emptyNumber
  | unknownWord (word : String)
  | notMoment
  | outOfRange (message : String)
  /-- A point in time that is not written as a scalar but as a mapping with a value key. -/
  | mappedMoment
  /-- A scalar that is looked for in itself. -/
  | cyclic
deriving DecidableEq, Repr

/-- What is said of the value, where something is. -/
def Failure.message : Failure → String
  | .noCharacter => "chr() arg not in range(0x110000)"
  | .notInteger radix text =>
    s!"invalid literal for int() with base {radix}: " ++ String.ofList ((Text.quoted text).toList.take 200)
  | .longNumeral digits => Text.longNumeralMessage digits
  | .notDouble text => s!"could not convert string to float: {Text.quoted text}"
  | .outOfRange message => message
  | _ => ""

end ShapeTables.Yaml
