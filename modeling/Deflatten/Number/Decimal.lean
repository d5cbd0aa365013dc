import Deflatten.Number.Binary64
/-!
# Reading decimals

Digits are read by `Decimal.natural`; `Binary64.ofDecimal` rounds `mantissa · 10 ^ exponent` once, whatever the size
of the exponent.
-/

namespace Deflatten

namespace Decimal

/-- The value of a decimal digit. -/
def digit (c : Char) : Nat := c.toNat - '0'.toNat

/-- The number that a string of decimal digits stands for. -/
def natural (ds : List Char) : Nat := ds.foldl (fun n c => 10 * n + digit c) 0

/-- A decimal split at its marks: sign, integer digits, fraction digits and exponent. -/
structure Parts where
  negative : Bool
  whole : List Char
  fraction : List Char
  exponent : Int
  deriving DecidableEq, Repr

/-- A leading minus or plus sign and what follows it. -/
def takeSign : List Char → Bool × List Char
  | '-' :: cs => (true, cs)
  | '+' :: cs => (false, cs)
  | cs => (false, cs)

/-- Reads an exponent mark, a sign and digits up to the end of the text. -/
def takeExponent : List Char → Option Int
  | [] => some 0
  | c :: cs =>
    if c = 'e' ∨ c = 'E' then
      let (negative, ds) := takeSign cs
      if ds.isEmpty ∨ !ds.all Char.isDigit then none else some (Binary64.signed negative (natural ds))
    else none

/-- Splits a whole text at its marks; `none` unless some digit stands before or after the point. -/
def split? (cs : List Char) : Option Parts := do
  let (negative, cs) := takeSign cs
  let whole := cs.takeWhile Char.isDigit
  let rest := cs.dropWhile Char.isDigit
  let (fraction, rest) :=
    match rest with
    | '.' :: ds => (ds.takeWhile Char.isDigit, ds.dropWhile Char.isDigit)
    | rest => ([], rest)
  if whole.isEmpty ∧ fraction.isEmpty then none
  let exponent ← takeExponent rest
  return { negative, whole, fraction, exponent }

end Decimal

namespace Binary64

/-- The number nearest to `± mantissa · 10 ^ exponent`. A decimal whose first digit stands beyond `10 ^ 310` or below
`10 ^ -330` is out of range without any computation. -/
def ofDecimal (negative : Bool) (mantissa : Nat) (exponent : Int) : Binary64 :=
  if mantissa = 0 then zero negative
  else
    let places := ((Nat.toDigits 10 mantissa).length : Int) + exponent
    if 311 < places then .infinity negative
    else if places < -329 then zero negative
    else if exponent < 0 then ofRatio negative mantissa (Nat.pow 10 (-exponent).toNat)
    else ofRatio negative (mantissa * Nat.pow 10 exponent.toNat) 1

/-- The number of a decimal split at its marks. -/
def ofParts (p : Decimal.Parts) : Binary64 :=
  ofDecimal p.negative (Decimal.natural (p.whole ++ p.fraction)) (p.exponent - p.fraction.length)

/-- Reads a decimal, an infinity or `nan`. -/
def ofText? (s : String) : Option Binary64 :=
  match s with
  | "nan" => some .nan
  | "inf" => some (.infinity false)
  | "-inf" => some (.infinity true)
  | _ => (Decimal.split? s.toList).map ofParts

end Binary64
end Deflatten
