import Deflatten.Text.CharacterNames.Aliases
import Deflatten.Text.CharacterNames.Alphabets
import Deflatten.Text.CharacterNames.Ancient
import Deflatten.Text.CharacterNames.Compatibility
import Deflatten.Text.CharacterNames.Notation
import Deflatten.Text.CharacterNames.Pictographs
import Deflatten.Text.CharacterNames.Punctuation
import Deflatten.Text.CharacterNames.Scripts
import Deflatten.Text.CharacterNames.Search
import Deflatten.Text.CharacterNames.Symbols
/-!
# Characters by name

`CharacterNames.codePoint?` finds the character that has a name. Most names stand in tables, for which case does not
matter. A unified ideograph is named by its code point, and a Hangul syllable by its letters; both in capitals.
-/

namespace Deflatten.CharacterNames

/-! ## Names that end in a code point -/

/-- Names that consist of a beginning and a code point in hexadecimal digits, before which there may be a zero. -/
structure Numbered where
  beginning : String
  ranges : List (Nat × Nat)
  mayPad : Bool := false

/-- The code point that a name gives in four or five digits behind its beginning. -/
def Numbered.codePoint? (n : Numbered) (name : String) : Option Nat := do
  let digits := name.toList.drop n.beginning.length
  guard (n.beginning.toList.isPrefixOf name.toList && (digits.length = 4 || digits.length = 5))
  guard (n.mayPad || digits.head? != some '0')
  let c ← hexadecimal? digits
  guard (n.ranges.any fun r => r.1 ≤ c && c ≤ r.2)
  return c

/-- The unified ideographs. -/
def unified : Numbered where
  beginning := "CJK UNIFIED IDEOGRAPH-"
  ranges := [
    (0x3400, 0x4dbf), (0x4e00, 0x9fff), (0x20000, 0x2a6df), (0x2a700, 0x2b738), (0x2b740, 0x2b81d),
    (0x2b820, 0x2cea1), (0x2ceb0, 0x2ebe0), (0x30000, 0x3134a)]
  mayPad := true

/-- Other characters named by their code points. -/
def numbered : List Numbered := [
  { beginning := "CJK COMPATIBILITY IDEOGRAPH-", ranges := [(0xf900, 0xfa6d), (0xfa70, 0xfad9), (0x2f800, 0x2fa1d)] },
  { beginning := "KHITAN SMALL SCRIPT CHARACTER-", ranges := [(0x18b00, 0x18cd5)] },
  { beginning := "NUSHU CHARACTER-", ranges := [(0x1b170, 0x1b2fb)] }]

/-- The variation selector that has a number, from 1 to 256. -/
def variation? (name : String) : Option Nat := do
  let digits := name.toList.drop 2
  guard ("VS".toList.isPrefixOf name.toList && digits.all Char.isDigit && digits.head?.any (· != '0'))
  let n := digits.foldl (fun n c => 10 * n + (c.toNat - '0'.toNat)) 0
  if n ≤ 16 then some (0xfe00 + n - 1) else if n ≤ 256 then some (0xe0100 + n - 17) else none

/-! ## Hangul -/

/-- The letters that a syllable may begin with. -/
def leadingLetters : List String :=
  ["G", "GG", "N", "D", "DD", "R", "M", "B", "BB", "S", "SS", "", "J", "JJ", "C", "K", "T", "P", "H"]

/-- The vowels of a syllable. -/
def vowels : List String := [
  "A", "AE", "YA", "YAE", "EO", "E", "YEO", "YE", "O", "WA", "WAE", "OE", "YO", "U", "WEO", "WE", "WI", "YU", "EU",
  "YI", "I"]

/-- The letters that a syllable may end in. -/
def trailingLetters : List String := [
  "", "G", "GG", "GS", "N", "NJ", "NH", "D", "L", "LG", "LM", "LB", "LS", "LT", "LP", "LH", "M", "B", "BS", "S", "SS",
  "NG", "J", "C", "K", "T", "P", "H"]

/-- The place of the longest text in a list that characters begin with, and the characters after it. -/
def longest? (texts : List String) (cs : List Char) : Option (Nat × List Char) :=
  let fitting := texts.filter fun s => s.toList.isPrefixOf cs
  match fitting with
  | [] => none
  | s :: ss =>
    let best := ss.foldl (fun a b => if a.length < b.length then b else a) s
    some (texts.idxOf best, cs.drop best.length)

/-- The syllable that letters spell. -/
def syllable? (letters : List Char) : Option Nat := do
  let (lead, rest) ← longest? leadingLetters letters
  let (vowel, rest) ← longest? vowels rest
  let (trail, rest) ← longest? trailingLetters rest
  guard rest.isEmpty
  return 0xac00 + (lead * vowels.length + vowel) * trailingLetters.length + trail

/-- The beginning of the names of syllables. -/
def syllables : String := "HANGUL SYLLABLE "

/-! ## All names -/

/-- All tables. -/
def tables : List String :=
  [alphabets, scripts, punctuation, symbols, compatibility, ancient, notations, pictographs]

/-- The code point of the character that has a name. -/
def codePoint? (name : String) : Option Nat :=
  if syllables.toList.isPrefixOf name.toList then syllable? (name.toList.drop syllables.length)
  else
    let capitals := name.map Char.toUpper
    (unified.codePoint? name).or <|
      (numbered.findSome? (·.codePoint? capitals)).or <|
        (aliases.lookup capitals).or <| (variation? capitals).or <| tables.findSome? (search capitals)

end Deflatten.CharacterNames
