/-! Tokens of patterns: single characters and characters after a backslash. -/
namespace ShapeTables.Pattern

inductive Token where
  | plain (c : Char)
  | escaped (c : Char)
  /-- A backslash at the end, which escapes nothing. -/
  | dangling
deriving DecidableEq, Repr

def tokens : List Char → List Token
  | [] => []
  | ['\\'] => [.dangling]
  | '\\' :: c :: rest => .escaped c :: tokens rest
  | c :: rest => .plain c :: tokens rest

/-- The character of a token without backslash. -/
def Token.plain? : Token → Option Char
  | .plain c => some c
  | .escaped _ | .dangling => none

end ShapeTables.Pattern
