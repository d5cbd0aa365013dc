import Deflatten.Script.Lexer.Escape
/-!
# Numerals

A decimal numeral is rounded to binary64; hexadecimal, octal and binary numerals are exact integers. A digit string
with a leading zero is octal unless it holds an eight or a nine. No letter may follow a numeral.
-/

namespace Deflatten.Script.Lexer

/-- Whether a character is an octal digit. -/
def isOctalDigit (c : Char) : Bool := '0' ≤ c && c ≤ '7'

/-- The number that digits of a base stand for. -/
def inBase (base : Nat) (ds : List Char) : Nat := ds.foldl (fun n c => base * n + (hexDigit? c).getD 0) 0

/-- A numeral: its value, whether it has the old octal form, and what follows. -/
abbrev Numeral := Number × Bool × List Char

/-- A numeral of digits that belong to a base, at least one, with nothing forbidden after it. -/
def based (base : Nat) (isDigit : Char → Bool) (octal : Bool) (cs : List Char) : Option Numeral :=
  let ds := cs.takeWhile isDigit
  let rest := cs.dropWhile isDigit
  let clash := beginsName rest || (base < 10 && rest.head?.any Char.isDigit)
  if ds.isEmpty || clash then none else some (.int (inBase base ds), octal, rest)

/-- Whether the digits after a leading zero make an octal numeral: no eight or nine comes before some other
character. -/
def isOldOctal (cs : List Char) : Bool :=
  match cs.dropWhile isOctalDigit with
  | '8' :: _ | '9' :: _ => false
  | _ => true

/-- The exponent of a decimal numeral, zero where there is no mark; `none` if digits are missing after the mark. -/
def exponentPart (cs : List Char) : Option (Int × List Char) :=
  match cs with
  | c :: ds =>
    if c = 'e' ∨ c = 'E' then
      let (negative, ds) := Decimal.takeSign ds
      let digits := ds.takeWhile Char.isDigit
      if digits.isEmpty then none
      else some (Binary64.signed negative (Decimal.natural digits), ds.dropWhile Char.isDigit)
    else some (0, cs)
  | [] => some (0, [])

/-- A decimal numeral. -/
def decimal (cs : List Char) : Option Numeral := do
  let whole := cs.takeWhile Char.isDigit
  let rest := cs.dropWhile Char.isDigit
  let (fraction, rest) :=
    match rest with
    | '.' :: ds => (ds.takeWhile Char.isDigit, ds.dropWhile Char.isDigit)
    | _ => ([], rest)
  let (exponent, rest) ← exponentPart rest
  if beginsName rest then none
  else some (Number.ofDecimal (Decimal.natural (whole ++ fraction)) (exponent - fraction.length), false, rest)

/-- A numeral that begins here; `none` if it is malformed. -/
def numeral (cs : List Char) : Option Numeral :=
  match cs with
  | '0' :: c :: ds =>
    if c = 'x' ∨ c = 'X' then based 16 (fun c => (hexDigit? c).isSome) false ds
    else if c = 'b' ∨ c = 'B' then based 2 (fun c => c = '0' || c = '1') false ds
    else if c = 'o' ∨ c = 'O' then based 8 isOctalDigit false ds
    else if isOctalDigit c && isOldOctal ds then based 8 isOctalDigit true (c :: ds)
    else decimal cs
  | _ => decimal cs

end Deflatten.Script.Lexer
