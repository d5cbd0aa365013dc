import Deflatten.Text.Digits
import Deflatten.Text.Names
import Deflatten.Text.Space
import Deflatten.Text.Surrogate
/-!
# Regular expression patterns

A pattern is read as a list of pieces: a character, or a backslash with the character that it escapes. Before that, the
escapes that name a code point are resolved, so that such a character counts like one that is written as it is.
-/

namespace Deflatten.Script.Pattern

/-- A character of a pattern, or an escaped one. -/
inductive Piece where
  | plain (c : Nat)
  | escaped (c : Nat)
  deriving DecidableEq, Repr

/-- The code of a character. -/
def code (c : Char) : Nat := c.toNat

/-- Whether a code is that of one of some characters. -/
def isAmong (chars : String) (c : Nat) : Bool := chars.toList.any fun d => code d == c

/-- The pieces of a pattern; `none` if it ends in a backslash that escapes nothing. -/
def pieces? : List Nat → Option (List Piece)
  | [] => some []
  | [c] => if c = code '\\' then none else some [.plain c]
  | c :: d :: cs =>
    if c = code '\\' then (pieces? cs).map (.escaped d :: ·) else (pieces? (d :: cs)).map (.plain c :: ·)

/-! ## Digits -/

/-- Whether a code is a decimal digit. -/
def isDigit (c : Nat) : Bool := code '0' ≤ c && c ≤ code '9'

/-- Whether a code is an octal digit. -/
def isOctal (c : Nat) : Bool := code '0' ≤ c && c ≤ code '7'

/-- Whether a code is an ASCII letter. -/
def isLetter (c : Nat) : Bool := (code 'a' ≤ c && c ≤ code 'z') || (code 'A' ≤ c && c ≤ code 'Z')

/-- The value of a hexadecimal digit. -/
def hex? (c : Nat) : Option Nat :=
  if isDigit c then some (c - code '0')
  else if code 'a' ≤ c && c ≤ code 'f' then some (c - code 'a' + 10)
  else if code 'A' ≤ c && c ≤ code 'F' then some (c - code 'A' + 10)
  else none

/-- The number that decimal digits write. -/
def decimal (cs : List Nat) : Nat := cs.foldl (fun n c => 10 * n + (c - code '0')) 0

/-- The number that hexadecimal digits write. -/
def hexadecimal (cs : List Nat) : Nat := cs.foldl (fun n c => 16 * n + (hex? c).getD 0) 0

/-! ## Escapes of code points -/

/-- The greatest code point. -/
def lastCodePoint : Nat := 0x10ffff

/-- The code that stands for all code points beyond the first plane. -/
def beyond : Nat := 0xffff

/-- The code point that four digits, or digits in braces, name after a `u`, and what follows. -/
def namedCodePoint? (cs : List Nat) : Option (Nat × List Nat) :=
  let isHex (c : Nat) : Bool := (hex? c).isSome
  let inBraces := (cs.drop 1).takeWhile isHex
  let rest := (cs.drop 1).dropWhile isHex
  if cs.head? = some (code '\x7b') && !inBraces.isEmpty && rest.head? = some (code '\x7d') then
    some (hexadecimal inBraces, rest.drop 1)
  else if (cs.take 4).length = 4 && (cs.take 4).all isHex then some (hexadecimal (cs.take 4), cs.drop 4)
  else none

/-- Resolves the escapes of code points, whatever stands before their backslash; `none` if one names no code point. -/
def resolved : Nat → List Nat → Option (List Nat)
  | 0, cs => some cs
  | _ + 1, [] => some []
  | rounds + 1, c :: cs =>
    match (if c = code '\\' && cs.head? = some (code 'u') then namedCodePoint? (cs.drop 1) else none) with
    | some (value, rest) =>
      if lastCodePoint < value then none else (resolved rounds rest).map (min value beyond :: ·)
    | none => (resolved rounds cs).map (c :: ·)

/-- Takes each pair of surrogates as one character. -/
def paired : List Nat → List Nat
  | [] => []
  | [c] => [c]
  | c :: d :: cs =>
    if 0xd800 ≤ c ∧ c < 0xdc00 ∧ 0xdc00 ≤ d ∧ d < 0xe000 then beyond :: paired cs else c :: paired (d :: cs)

/-- The codes of a pattern whose escapes of code points are resolved. -/
def codes? (pattern : List Char) : Option (List Nat) := resolved pattern.length (pattern.map Surrogate.codePoint)

/-- The pieces of a pattern. -/
def read? (pattern : List Char) : Option (List Piece) := (codes? pattern).bind fun cs => pieces? (paired cs)

/-! ## Names of groups -/

/-- Whether a code may stand in the name of a group: dollar signs, joiners and unstable letters may not. -/
def isGroupPart (c : Nat) : Bool :=
  Names.isPart c && c != code '$' && c != 0x200c && c != 0x200d && !Letters.within Letters.unstable c

/-- Whether codes may name a group. -/
def isGroupName (cs : List Nat) : Bool :=
  match cs with
  | [] => false
  | c :: _ => Names.isStart c && !Letters.within Letters.unstableFirst c && cs.all isGroupPart

/-! ## Numbers of groups -/

/-- The values of digits of any script; single low lines may stand between them. -/
def digitValues? : List Nat → Option (List Nat)
  | [] => none
  | [c] => (Digits.value? c).map ([·])
  | c :: d :: cs => do
    let v ← Digits.value? c
    let vs ← if d = code '_' then digitValues? cs else digitValues? (d :: cs)
    return v :: vs

/-- Whether a code is white space that may stand around a number. -/
def isEdge (c : Nat) : Bool := Space.isSpace (Char.ofNat c) && !(0x1c ≤ c && c ≤ 0x1f)

/-- The number of a group: digits of any script, with a plus sign and white space if need be. -/
def groupNumber? (cs : List Nat) : Option Nat :=
  let cut (cs : List Nat) := cs.dropWhile isEdge
  let bare := (cut (cut cs).reverse).reverse
  let unsigned := if bare.head? = some (code '+') then bare.drop 1 else bare
  (digitValues? unsigned).map fun ds => ds.foldl (fun n d => 10 * n + d) 0

/-- The characters before a closing mark, none of them escaped, and what follows the mark. -/
def until? (close : Char) : List Piece → Option (List Nat × List Piece)
  | .plain c :: ps => if c = code close then some ([], ps) else (until? close ps).map fun (cs, rest) => (c :: cs, rest)
  | _ => none

end Deflatten.Script.Pattern
