import Deflatten.Script.Pattern.Basic
import Deflatten.Text.CharacterNames.Lookup
/-!
# Escapes and classes

What an escaped character stands for, and classes in brackets. A class holds at least one member, so a bracket that
would close it first is a member; its ranges rise from one character to another.
-/

namespace Deflatten.Script.Pattern

/-! ## Characters -/

/-- The characters that a letter names when it is escaped. -/
def controls : List (Char × Nat) := [('a', 7), ('f', 12), ('n', 10), ('r', 13), ('t', 9), ('v', 11)]

/-- Reads exactly so many hexadecimal digits. -/
def hexDigits : Nat → Nat → List Piece → Option (Nat × List Piece)
  | 0, value, ps => some (value, ps)
  | count + 1, value, .plain c :: ps => (hex? c).bind fun d => hexDigits count (16 * value + d) ps
  | _ + 1, _, _ => none

/-- Reads at most so many octal digits. -/
def octalDigits : Nat → Nat → List Piece → Nat × List Piece
  | count + 1, value, .plain c :: ps =>
    if isOctal c then octalDigits count (8 * value + (c - code '0')) ps else (value, .plain c :: ps)
  | _, value, ps => (value, ps)

/-- Reads the name of a character in braces. -/
def namedCharacter (ps : List Piece) : Option (Nat × List Piece) :=
  match ps with
  | .plain c :: rest => do
    guard (c = code '\x7b')
    let (name, rest) ← until? '\x7d' rest
    return (← CharacterNames.codePoint? (String.ofList (name.map Char.ofNat)), rest)
  | _ => none

/-- An escape that stands for one character: what was escaped, and the pieces after it. -/
def escapedCharacter (c : Nat) (ps : List Piece) : Option (Nat × List Piece) :=
  match controls.find? fun (name, _) => code name == c with
  | some (_, value) => some (value, ps)
  | none =>
    if c = code 'x' then hexDigits 2 0 ps
    else if c = code 'u' then hexDigits 4 0 ps
    else if c = code 'N' then namedCharacter ps
    else if c = code 'U' then (hexDigits 8 0 ps).filter fun r => r.1 ≤ lastCodePoint
    else if isLetter c || isDigit c then none
    else some (c, ps)

/-- Whether a letter names a set of characters when escaped. -/
def namesSet (c : Nat) : Bool := isAmong "dDsSwW" c

/-- Whether a letter names a place when escaped. -/
def namesPlace (c : Nat) : Bool := isAmong "AbBZ" c

/-! ## Classes -/

/-- The greatest code that octal digits may name. -/
def lastOctal : Nat := 255

/-- A member of a class: a character, or a set without a code. -/
def classMember : Piece → List Piece → Option (Option Nat × List Piece)
  | .plain c, ps => some (some c, ps)
  | .escaped c, ps =>
    if namesSet c then some (none, ps)
    else if c = code 'b' then some (some 8, ps)
    else if isOctal c then
      let (value, rest) := octalDigits 2 (c - code '0') ps
      if value ≤ lastOctal then some (some value, rest) else none
    else (escapedCharacter c ps).map fun (value, rest) => (some value, rest)

/-- Reads a class after its opening bracket and circumflex. `empty` tells whether no member has been read yet. -/
def classRest : Nat → Bool → List Piece → Option (List Piece)
  | 0, _, _ => none
  | _ + 1, _, [] => none
  | rounds + 1, empty, p :: ps =>
    if p = .plain (code ']') && !empty then some ps
    else
      match classMember p ps with
      | none => none
      | some (low, rest) =>
        if rest.head? = some (.plain (code '-')) then
          match low, rest.drop 1 with
          | _, [] => none
          | low, q :: qs =>
            -- A hyphen before the closing bracket is a member.
            if q = .plain (code ']') then some qs
            else
              match low, classMember q qs with
              | some l, some (some h, after) => if h < l then none else classRest rounds false after
              | _, _ => none
        else classRest rounds false rest

/-- Reads a class after its opening bracket. -/
def classTail (ps : List Piece) : Option (List Piece) :=
  if ps.head? = some (.plain (code '^')) then classRest ps.length true (ps.drop 1) else classRest ps.length true ps

/-! ## Bounds of a repetition -/

/-- The codes of the digits that pieces begin with, and what follows. -/
def digits : List Piece → List Nat × List Piece
  | .plain c :: ps =>
    if isDigit c then
      let (cs, rest) := digits ps
      (c :: cs, rest)
    else ([], .plain c :: ps)
  | ps => ([], ps)

/-- The number that digits write, if there are any. -/
def number? (cs : List Nat) : Option Nat := if cs.isEmpty then none else some (decimal cs)

/-- The bounds of a repetition in braces and what follows; `none` if the brace is a plain character. -/
def bounds? (ps : List Piece) : Option (Option Nat × Option Nat × List Piece) :=
  let (low, rest) := digits ps
  match rest with
  | .plain c :: qs =>
    if c = code ',' then
      let (high, rest) := digits qs
      if rest.head? = some (.plain (code '\x7d')) then some (number? low, number? high, rest.drop 1) else none
    else if c = code '\x7d' && !low.isEmpty then some (number? low, number? low, qs)
    else none
  | _ => none

end Deflatten.Script.Pattern
