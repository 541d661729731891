import ShapeTables.Sql.Reserved

/-! Lexemes of statements. A statement is written as a sequence of names, string literals and plain words.
Names are quoted where a dialect would not take them as they are; inside quotes a quote is written twice, and
so is a percent sign, since statements are written for a driver that takes a single one as a placeholder.
MySQL also reads a backslash in a literal as an escape, so it is written twice there. -/
namespace ShapeTables.Sql

inductive Lexeme where
  | word (text : String)
  | name (s : String)
  | literal (s : String)
deriving DecidableEq, Repr

/-- The quote around names. -/
def Dialect.nameQuote : Dialect → Char
  | .postgresql => '\"'
  | .mysql => '\x60'

/-- Whether a character may stand in an unquoted name: small letters, digits, the underscore and the dollar
sign, and the two letters outside ASCII whose capital is an ASCII letter. -/
def isPlain (c : Char) : Bool :=
  ('a' ≤ c && c ≤ 'z') || ('0' ≤ c && c ≤ '9') || c == '_' || c == '$' ||
    c == Char.ofNat 0x131 || c == Char.ofNat 0x17F

/-- The characters without a line feed at their end. -/
def withoutFinalLineFeed (cs : List Char) : List Char :=
  if cs.getLast? = some '\n' then cs.dropLast else cs

/-- Whether a name is written without quotes. -/
def Dialect.leavesPlain (d : Dialect) (s : String) : Bool :=
  let cs := withoutFinalLineFeed s.toList
  match cs with
  | [] => false
  | first :: _ =>
    !('0' ≤ first && first ≤ '9') && first != '$' && cs.all isPlain && !d.reserved.contains s

/-- The characters, each of those that satisfy `p` written twice. -/
def double (p : Char → Bool) (cs : List Char) : List Char :=
  cs.flatMap fun c => if p c then [c, c] else [c]

def Dialect.encodeName (d : Dialect) (s : String) : List Char :=
  if d.leavesPlain s then s.toList
  else d.nameQuote :: double (fun c => c == d.nameQuote || c == '%') s.toList ++ [d.nameQuote]

/-- Whether a character of a literal is written twice. -/
def Dialect.doublesInLiteral (d : Dialect) (c : Char) : Bool :=
  c == '\'' || c == '%' || (d == .mysql && c == '\\')

def Dialect.encodeLiteral (d : Dialect) (s : String) : List Char :=
  '\'' :: double d.doublesInLiteral s.toList ++ ['\'']

def Lexeme.encode (d : Dialect) : Lexeme → List Char
  | .word text => text.toList
  | .name s => d.encodeName s
  | .literal s => d.encodeLiteral s

def Lexeme.encodeAll (d : Dialect) (lexemes : List Lexeme) : List Char := lexemes.flatMap (·.encode d)

end ShapeTables.Sql
