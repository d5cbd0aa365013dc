import Deflatten.Text.Letters
/-!
# Names

Which code points may begin a script name, and which may go on in one. A name may hold letters of every script, `$`
and `_`; after the first place also digits, marks and the two joiners U+200C and U+200D. Names are read by Unicode 14
and written by Unicode 17, which keeps U+2E2F for syntax although it is a letter.
-/

namespace Deflatten.Names

/-- Whether a code point is an ASCII letter, `$` or `_`. -/
def isPlainLetter (c : Nat) : Bool :=
  (65 ≤ c && c ≤ 90) || (97 ≤ c && c ≤ 122) || c == 36 || c == 95

/-- Whether a code point may begin a name. -/
def isStart (c : Nat) : Bool := isPlainLetter c || (128 ≤ c && Letters.within Letters.letters c)

/-- Whether a code point may stand in a name after its first place. -/
def isPart (c : Nat) : Bool :=
  isPlainLetter c || (48 ≤ c && c ≤ 57) ||
    (128 ≤ c && (c == 0x200c || c == 0x200d || Letters.within Letters.letters c || Letters.within Letters.marks c))

/-! ## Names to be written -/

/-- The letter that is kept for syntax. -/
def verticalTilde : Nat := 0x2e2f

/-- Whether a code point may begin a name that is written. -/
def isWrittenStart (c : Nat) : Bool := c != verticalTilde && (isStart c || Letters.within Letters.laterLetters c)

/-- Whether a code point may stand in a name that is written after its first place. -/
def isWrittenPart (c : Nat) : Bool :=
  c != verticalTilde && (isPart c || Letters.within Letters.laterLetters c || Letters.within Letters.laterMarks c)

/-- Whether a text is a name that can be written. -/
def isWritten (s : String) : Bool :=
  match s.toList with
  | [] => false
  | c :: cs => isWrittenStart c.toNat && cs.all fun c => isWrittenPart c.toNat

end Deflatten.Names
