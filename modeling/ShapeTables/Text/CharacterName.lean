import ShapeTables.Text.CharacterName.Aliases
import ShapeTables.Text.CharacterName.Alphabets
import ShapeTables.Text.CharacterName.Pictographs
import ShapeTables.Text.CharacterName.Scripts
import ShapeTables.Text.CharacterName.Syllables
import ShapeTables.Text.CharacterName.Symbols
import ShapeTables.Text.Digits
import ShapeTables.Text.Segments

/-! Characters by name. Most names are listed in tables; the names of Korean syllables are put together from those
of their letters, and those of unified ideographs end in their code points. Small letters count as capitals in
the names that are listed, and only there. -/
namespace ShapeTables.Text.CharacterName

/-- The names that are listed, in rows as `aliases` has them. -/
def tables : List (List String) :=
  [latin, europe, nearEast, india, southIndia, southEastAsia, ethiopia, canada, mongolia, indonesia, phonetics,
   punctuation, operators, technical, shapes, dingbats, arrows, furtherAlphabets, radicals,
   kana, squares, yi, minorities, furtherSyllables, compatibility, presentation,
   aegean, oriental, brahmic, furtherBrahmic, cuneiform, hieroglyphs, anatolia, africa, tangut, stenography,
   music, mathematicalLetters, signWriting, furtherLetters, tiles, enclosed, scenes, faces, furtherShapes,
   legacy, aliases]

/-- The code point of a name by a row, if the row has it. -/
def lookIn (name : List Char) (row : String) : Option Nat :=
  let cs := row.toList
  let first := cs.takeWhile (· ≠ ':')
  let cs := (cs.dropWhile (· ≠ ':')).drop 1
  let lead := cs.takeWhile (· ≠ ':')
  if lead.isPrefixOf name then
    let endings := splitChars ',' ((cs.dropWhile (· ≠ ':')).drop 1)
    (endings.idxOf? (name.drop lead.length)).map fun i => number 16 first + i
  else none

/-! ### Korean syllables -/

def syllableLead : List Char := "HANGUL SYLLABLE ".toList

/-- The letters that a syllable starts with, goes on with, and ends with, by their names. -/
def initials : List String :=
  ["G", "GG", "N", "D", "DD", "R", "M", "B", "BB", "S", "SS", "", "J", "JJ", "C", "K", "T", "P", "H"]

def vowels : List String :=
  ["A", "AE", "YA", "YAE", "EO", "E", "YEO", "YE", "O", "WA", "WAE", "OE", "YO", "U", "WEO", "WE", "WI", "YU",
   "EU", "YI", "I"]

def finals : List String :=
  ["", "G", "GG", "GS", "N", "NJ", "NH", "D", "L", "LG", "LM", "LB", "LS", "LT", "LP", "LH", "M", "B", "BS", "S",
   "SS", "NG", "J", "C", "K", "T", "P", "H"]

def isVowel (c : Char) : Bool := "AEIOUWY".toList.contains c

/-- The code point of a syllable by the names of its letters. -/
def syllable? (letters : List Char) : Option Nat := do
  let rest := letters.dropWhile fun c => !isVowel c
  let initial ← initials.idxOf? (String.ofList (letters.takeWhile fun c => !isVowel c))
  let vowel ← vowels.idxOf? (String.ofList (rest.takeWhile isVowel))
  let final ← finals.idxOf? (String.ofList (rest.dropWhile isVowel))
  return 0xAC00 + (initial * vowels.length + vowel) * finals.length + final

/-! ### Unified ideographs -/

def ideographLead : List Char := "CJK UNIFIED IDEOGRAPH-".toList

/-- Runs of unified ideographs. -/
def ideographs : List (Nat × Nat) :=
  [(0x3400, 0x4DBF), (0x4E00, 0x9FFF), (0x20000, 0x2A6DF), (0x2A700, 0x2B738), (0x2B740, 0x2B81D),
   (0x2B820, 0x2CEA1), (0x2CEB0, 0x2EBE0), (0x30000, 0x3134A)]

/-- The code point that four or five digits are, if it is that of an ideograph. -/
def ideograph? (digits : List Char) : Option Nat :=
  let isDigit := fun c => isDecimal c || ('A' ≤ c && c ≤ 'F')
  let n := number 16 digits
  if (digits.length = 4 ∨ digits.length = 5) ∧ digits.all isDigit ∧
      ideographs.any (fun (first, last) => first ≤ n && n ≤ last) then some n else none

/-! ### All names -/

/-- The code point of the character with a name. -/
def find? (name : List Char) : Option Nat :=
  if syllableLead.isPrefixOf name then syllable? (name.drop syllableLead.length)
  else if ideographLead.isPrefixOf name then ideograph? (name.drop ideographLead.length)
  else
    let name := name.map Char.toUpper
    tables.findSome? fun rows => rows.findSome? (lookIn name)

end ShapeTables.Text.CharacterName
