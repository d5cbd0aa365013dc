/-!
# Binary64 numbers, exactly

A finite binary64 number is `± significand · 2 ^ exponent`. All arithmetic here is exact on `Nat` and `Int`
and rounds once, to the nearest number, a tie going to the even significand.

* `Binary64.ofRatio` rounds a ratio of natural numbers.
* `Binary64.add` is the rounded sum.
* `Binary64.point` places a number on the extended line, where `Point.less` and `Point.same` compare exactly.
-/

namespace Deflatten

/-- A binary64 datum. The number rounded to is in lowest exponent form: `significand < 2 ^ 53`,
`-1074 ≤ exponent`, and `2 ^ 52 ≤ significand` unless `exponent = -1074`. -/
inductive Binary64 where
  | nan
  | infinity (negative : Bool)
  | finite (negative : Bool) (significand : Nat) (exponent : Int)
  deriving DecidableEq, Repr, Inhabited

/-- A point of the real line with its two ends; `ratio n d` stands for `n / d`, where `0 < d`. -/
inductive Point where
  | bottom
  | ratio (numerator : Int) (denominator : Nat)
  | top
  deriving DecidableEq, Repr

namespace Point

/-- Strict order of points. -/
def less : Point → Point → Bool
  | .bottom, .bottom => false
  | .bottom, _ => true
  | _, .bottom => false
  | .top, _ => false
  | .ratio _ _, .top => true
  | .ratio a b, .ratio c d => a * d < c * b

/-- Whether two points coincide. -/
def same : Point → Point → Bool
  | .bottom, .bottom => true
  | .top, .top => true
  | .ratio a b, .ratio c d => a * d == c * b
  | _, _ => false

/-- The point of an integer. -/
def ofInt (n : Int) : Point := .ratio n 1

theorem less_ofInt (a b : Int) : less (ofInt a) (ofInt b) = decide (a < b) := by
  simp [less, ofInt]

theorem same_ofInt (a b : Int) : same (ofInt a) (ofInt b) = (a == b) := by
  simp [same, ofInt]

end Point

namespace Binary64

/-- The least exponent of a finite number. -/
def leastExponent : Int := -1074

/-- The greatest exponent of a finite number. -/
def greatestExponent : Int := 971

/-- The power of two with a natural exponent. -/
def powerOfTwo (n : Nat) : Nat := Nat.pow 2 n

/-- `n / d` to the nearest integer, a tie going to the even one. -/
def roundHalfEven (n d : Nat) : Nat :=
  let q := n / d
  let twice := 2 * (n % d)
  if twice < d then q else if d < twice then q + 1 else q + q % 2

/-- The exponent that gives `n / d` a significand of 53 binary digits, or the least exponent. -/
def ratioExponent (n d : Nat) : Int :=
  let low : Int := (n.log2 : Int) - d.log2 - 53
  let reaches : Bool :=
    if low < 0 then powerOfTwo 53 * d ≤ n * powerOfTwo (-low).toNat
    else powerOfTwo 53 * d * powerOfTwo low.toNat ≤ n
  max leastExponent (if reaches then low + 1 else low)

/-- The number nearest to `± n / d`, for `0 < d`; beyond the greatest finite number, an infinity. -/
def ofRatio (negative : Bool) (n d : Nat) : Binary64 :=
  if n = 0 then .finite negative 0 leastExponent
  else
    let e := ratioExponent n d
    let m :=
      if e < 0 then roundHalfEven (n * powerOfTwo (-e).toNat) d else roundHalfEven n (d * powerOfTwo e.toNat)
    let (m, e) := if m = powerOfTwo 53 then (powerOfTwo 52, e + 1) else (m, e)
    if greatestExponent < e then .infinity negative else .finite negative m e

/-- Zero of a sign. -/
def zero (negative : Bool) : Binary64 := .finite negative 0 leastExponent

/-- The number nearest to an integer; `none` beyond the greatest finite number. -/
def ofInt? (n : Int) : Option Binary64 :=
  match ofRatio (n < 0) n.natAbs 1 with
  | .finite s m e => some (.finite s m e)
  | _ => none

/-- The magnitude of a finite number as a ratio. -/
def magnitude (significand : Nat) (exponent : Int) : Nat × Nat :=
  if exponent < 0 then (significand, powerOfTwo (-exponent).toNat)
  else (significand * powerOfTwo exponent.toNat, 1)

/-- The integer `± n`. -/
def signed (negative : Bool) (n : Nat) : Int := if negative then -(n : Int) else n

/-- The point of a number; `none` for `nan`, which has no place on the line. -/
def point : Binary64 → Option Point
  | .nan => none
  | .infinity true => some .bottom
  | .infinity false => some .top
  | .finite s m e => some (.ratio (signed s (magnitude m e).1) (magnitude m e).2)

/-- The integer that a number equals. -/
def toInt? : Binary64 → Option Int
  | .finite s m e =>
    let (n, d) := magnitude m e
    if n % d = 0 then some (signed s (n / d)) else none
  | _ => none

/-- The rounded sum. Opposite infinities have none, and a sum of zero is negative only for two negative zeros. -/
def add : Binary64 → Binary64 → Binary64
  | .nan, _ => .nan
  | _, .nan => .nan
  | .infinity s, .infinity t => if s = t then .infinity s else .nan
  | .infinity s, _ => .infinity s
  | _, .infinity t => .infinity t
  | .finite s m e, .finite t n f =>
    let (a, b) := magnitude m e
    let (c, d) := magnitude n f
    let sum := signed s (a * d) + signed t (c * b)
    if sum = 0 then zero (s && t) else ofRatio (sum < 0) sum.natAbs (b * d)

end Binary64
end Deflatten
