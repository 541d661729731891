import ShapeTables.Text.Digits
import ShapeTables.Text.Quoted
import ShapeTables.Text.Segments

/-! Addresses of schemas. An address may start with a scheme and a colon, and may then name an authority between
two slashes and the next slash, question mark or number sign. Control characters and blanks in front of it are
passed over, and so are tabs and line ends. An authority with a bracket needs both of them, and between them
the address of a host by the Internet Protocol, version six or later; and no character of an authority may be
a form of one of those that would end it or divide it. -/
namespace ShapeTables.MetaSchema.Address

open Text

/-- Why the authority of an address cannot be taken. -/
inductive Fault where
  | brackets
  | futureHost
  | hostOfVersionFour
  | unknownHost (host : String)
  | dividingCharacter (authority : String)
deriving DecidableEq, Repr

def Fault.message : Fault → String
  | .brackets => "Invalid IPv6 URL"
  | .futureHost => "IPvFuture address is invalid"
  | .hostOfVersionFour => "An IPv4 address cannot be in brackets"
  | .unknownHost host => s!"{quoted host} does not appear to be an IPv4 or IPv6 address"
  | .dividingCharacter authority =>
    s!"netloc '{authority}' contains invalid characters under NFKC normalization"

/-! ### Parts -/

/-- The characters of an address that count. -/
def clean (address : String) : List Char :=
  (address.toList.dropWhile fun c => c.toNat ≤ 0x20).filter fun c => c != '\t' && c != '\n' && c != '\r'

/-- A character of a scheme. -/
def isSchemeChar (c : Char) : Bool := c.isAlphanum || c == '+' || c == '-' || c == '.'

/-- The scheme, if there is one, and what follows its colon. -/
def splitScheme (cs : List Char) : Option (List Char) × List Char :=
  let scheme := cs.takeWhile isSchemeChar
  match cs.dropWhile isSchemeChar with
  | ':' :: rest => if scheme.head?.any Char.isAlpha then (some scheme, rest) else (none, cs)
  | _ => (none, cs)

/-- The authority, empty if none is named. -/
def authority (cs : List Char) : List Char :=
  match (splitScheme cs).2 with
  | '/' :: '/' :: rest => rest.takeWhile fun c => c != '/' && c != '?' && c != '#'
  | _ => []

/-! ### Hosts -/

/-- A part of an address of version four: a number below 256 without zeros in front. -/
def isOctet (digits : List Char) : Bool :=
  !digits.isEmpty && digits.length ≤ 3 && digits.all isDecimal && (digits == ['0'] || digits.head? != some '0') &&
    number 10 digits < 256

def isVersionFour (host : List Char) : Bool :=
  let parts := splitChars '.' host
  parts.length == 4 && parts.all isOctet

/-- A part of an address of version six. -/
def isHextet (digits : List Char) : Bool :=
  !digits.isEmpty && digits.length ≤ 4 && digits.all isHexadecimal

/-- The parts before and after the only gap, which is an empty part that is neither the first nor the last. -/
def splitAtGap : List (List Char) → Option (List (List Char) × Option (List (List Char)))
  | [] => some ([], none)
  | [last] => some ([last], none)
  | part :: rest =>
    if part.isEmpty then
      if (rest.dropLast.any List.isEmpty) then none else some ([], some rest)
    else (splitAtGap rest).map fun (before, after) => (part :: before, after)

/-- Whether the eight parts of an address of version six are there. Empty parts at an end stand only where the
gap is at that end. -/
def areParts (parts : List (List Char)) : Bool :=
  match parts with
  | [] => false
  | first :: rest => match splitAtGap rest with
    | none => false
    | some (_, none) => parts.length == 8 && parts.all isHextet
    | some (before, some after) =>
      let high := if first.isEmpty ∧ before.isEmpty then [] else first :: before
      let low := if after == [[]] then [] else after
      high.all isHextet && low.all isHextet && high.length + low.length < 8

/-- An address of version six; its last part may be one of version four, which counts as two. -/
def isVersionSix (host : List Char) : Bool :=
  let address := host.takeWhile (· ≠ '%')
  let scope := host.dropWhile (· ≠ '%')
  let parts := splitChars ':' address
  let last := parts.getLast?.getD []
  let parts := if last.contains '.' then parts.dropLast ++ [['0'], ['0']] else parts
  (scope.isEmpty || (1 < scope.length && !(scope.drop 1).contains '%')) &&
    3 ≤ (splitChars ':' address).length && (!last.contains '.' || isVersionFour last) && areParts parts

/-- An address of a later version: its number in hexadecimal digits, a dot and something else. -/
def isLaterVersion (host : List Char) : Bool :=
  let rest := host.drop 1
  !(rest.takeWhile isHexadecimal).isEmpty && match rest.dropWhile isHexadecimal with
    | '.' :: _ :: _ => true
    | _ => false

def checkHost (host : List Char) : Except Fault Unit :=
  if host.head? = some 'v' then if isLaterVersion host then .ok () else .error .futureHost
  else if isVersionFour host then .error .hostOfVersionFour
  else if isVersionSix host then .ok ()
  else .error (.unknownHost (String.ofList host))

/-! ### Authorities -/

/-- What follows the last at sign. -/
def hostAndAfter (authority : List Char) : List Char :=
  (authority.reverse.takeWhile (· ≠ '@')).reverse

/-- Checks an authority with both brackets. Nothing may stand before them, and after them only what starts with a
colon. -/
def checkBrackets (authority : List Char) : Except Fault Unit :=
  let rest := hostAndAfter authority
  match rest.dropWhile (· ≠ '[') with
  | _ :: bracketed =>
    let after := (bracketed.dropWhile (· ≠ ']')).drop 1
    if rest.head? ≠ some '[' ∨ (!after.isEmpty ∧ after.head? ≠ some ':') then .error .brackets
    else checkHost (bracketed.takeWhile (· ≠ ']'))
  | [] => checkHost (rest.takeWhile (· ≠ ':'))

/-- Characters that are forms of a slash, a question mark, a number sign, an at sign or a colon, alone or
together with others. -/
def dividingForms : List Nat :=
  [0x2047, 0x2048, 0x2049, 0x2100, 0x2101, 0x2105, 0x2106, 0x2A74, 0xFE13, 0xFE16, 0xFE55, 0xFE56, 0xFE5F,
   0xFE6B, 0xFF03, 0xFF0F, 0xFF1A, 0xFF1F, 0xFF20]

/-- Checks the authority of an address. -/
def check (address : String) : Except Fault Unit := do
  let cs := authority (clean address)
  if cs.contains '[' != cs.contains ']' then throw .brackets
  if cs.contains '[' then checkBrackets cs
  if cs.any fun c => dividingForms.contains c.toNat then throw (.dividingCharacter (String.ofList cs))

end ShapeTables.MetaSchema.Address
