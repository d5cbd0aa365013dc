import Deflatten.Number.Binary64
/-!
# The fewest decimal digits that read back

`Shortest.digits` finds the decimal `d · 10 ^ k` with the fewest digits among those that round to a given
binary64 number, and of these the nearest. `Binary64.text` writes it out.
-/

namespace Deflatten

namespace Shortest

/-- The number of decimal digits of `n`, one for zero. -/
def width (n : Nat) : Nat := (Nat.toDigits 10 n).length

/-- `⌊log₁₀ (n / d)⌋` for positive `n` and `d`. -/
def decimalExponent (n d : Nat) : Int :=
  if d ≤ n then width (n / d) - 1 else -(width ((d - 1) / n) : Int)

/-- A power with a natural exponent, one when the exponent is negative. -/
def power (base : Nat) (exponent : Int) : Nat := Nat.pow base exponent.toNat

/-- Looks for a decimal `d · 10 ^ k` among the two neighbours of `m · 2 ^ q` on the grid `10 ^ k`. The interval of
reals that round to the number reaches half a unit up, and half a unit down or a quarter where the unit halves; its
ends belong to it iff `m` is even. Everything is scaled by `4 / 2 ^ q`. -/
def onGrid (m : Nat) (q k : Int) : Option Nat :=
  let unit := 4 * power 10 k * power 2 (-q)
  let scale := power 10 (-k) * power 2 q
  let value := 4 * m * scale
  let high := (4 * m + 2) * scale
  let low := (4 * m - if m = Binary64.powerOfTwo 52 ∧ Binary64.leastExponent < q then 1 else 2) * scale
  let inside (c : Nat) : Bool :=
    if m % 2 = 0 then low ≤ c * unit && c * unit ≤ high else low < c * unit && c * unit < high
  let below := value / unit
  match inside below, inside (below + 1) with
  | false, false => none
  | true, false => some below
  | false, true => some (below + 1)
  | true, true =>
    let down := value - below * unit
    let up := (below + 1) * unit - value
    if down < up then some below else if up < down then some (below + 1) else some (below + below % 2)

/-- The digits and the power of ten of the shortest decimal for `m · 2 ^ q`, where `m` is positive. Seventeen digits
always suffice. A neighbour that has grown a digit is a power of ten. -/
def digits (m : Nat) (q : Int) : Nat × Int :=
  let (n, d) := Binary64.magnitude m q
  let top := decimalExponent n d
  let attempt (count : Nat) : Option (Nat × Int) :=
    let k := top - count
    (onGrid m q k).map fun c => if c = power 10 (count + 1) then (1, k + count + 1) else (c, k)
  ((List.range 17).findSome? attempt).getD (0, 0)

end Shortest

namespace Binary64

/-- `n` zeros. -/
def zeros (n : Nat) : List Char := List.replicate n '0'

/-- Writes `ds · 10 ^ k`: positionally with at least one decimal when the first digit stands for a power of ten from
`-4` to `15`, otherwise with an exponent that has a sign and at least two digits. -/
def layout (ds : List Char) (k : Int) : List Char :=
  let places := ds.length + k
  if -4 < places ∧ places ≤ 16 then
    if places ≤ 0 then '0' :: '.' :: zeros (-places).toNat ++ ds
    else if ds.length ≤ places then ds ++ zeros k.toNat ++ ['.', '0']
    else ds.take places.toNat ++ '.' :: ds.drop places.toNat
  else
    let exponent := places - 1
    let shown := Nat.toDigits 10 exponent.natAbs
    let fraction := ds.drop 1
    ds.take 1 ++ (if fraction.isEmpty then [] else '.' :: fraction) ++ 'e' :: (if exponent < 0 then '-' else '+') ::
      (if shown.length < 2 then '0' :: shown else shown)

/-- The text of the finite number `± m · 2 ^ q`. -/
def finiteText (negative : Bool) (m : Nat) (q : Int) : String :=
  let body :=
    if m = 0 then ['0', '.', '0']
    else
      let (d, k) := Shortest.digits m q
      layout (Nat.toDigits 10 d) k
  String.ofList (if negative then '-' :: body else body)

/-- The text of a number: shortest digits, and `inf` and `nan` for the rest. -/
def text : Binary64 → String
  | .nan => "nan"
  | .infinity negative => if negative then "-inf" else "inf"
  | .finite s m q => finiteText s m q

end Binary64
end Deflatten
