import Deflatten.Number.Shortest
import Deflatten.Number.Decimal
/-!
# Numbers

A number is an integer of any size or a binary64 number. `Number.same` and `Number.less` compare the two kinds
exactly; `nan` equals nothing and is less than nothing. Integers are read and written in at most `Number.maxDigits`
digits.
-/

namespace Deflatten

/-- An integer of any size, or a binary64 number. -/
inductive Number where
  | int (value : Int)
  | float (value : Binary64)
  deriving DecidableEq, Repr

namespace Number

instance : Inhabited Number := ⟨.int 0⟩

/-- The place of a number on the line. -/
def point : Number → Option Point
  | .int n => some (.ofInt n)
  | .float x => x.point

/-- Whether two numbers are equal as numbers. -/
def same (a b : Number) : Bool :=
  match a.point, b.point with
  | some p, some q => p.same q
  | _, _ => false

/-- Whether `a` lies below `b`. -/
def less (a b : Number) : Bool :=
  match a.point, b.point with
  | some p, some q => p.less q
  | _, _ => false

/-- Adds an integer that binary64 holds exactly: exactly to an integer, rounded to a binary64 number. -/
def addSmall (a : Number) (k : Int) : Number :=
  match a with
  | .int n => .int (n + k)
  | .float x => .float (x.add (.ofRatio (k < 0) k.natAbs 1))

/-- The number one above. -/
def succ (a : Number) : Number := a.addSmall 1

/-- The number one below. -/
def pred (a : Number) : Number := a.addSmall (-1)

/-- Whether a number lies below zero. -/
def isNegative (a : Number) : Bool := a.less (.int 0)

/-- A number that equals an integer becomes that integer. -/
def integral : Number → Number
  | .int n => .int n
  | .float x =>
    match x.toInt? with
    | some n => .int n
    | none => .float x

/-- The text of a number as it stands. -/
def text : Number → String
  | .int n => toString n
  | .float x => x.text

/-- The text of a number, an integral one without a fraction. -/
def shortText (a : Number) : String := a.integral.text

/-! ## Length -/

/-- The most digits that an integer is read or written with. -/
def maxDigits : Nat := 4300

/-- Whether a number has few enough digits to be written. A binary64 number always has. -/
def isWritable : Number → Bool
  | .int n => n.natAbs < Nat.pow 10 maxDigits
  | .float _ => true

/-- What is said of an integer with too many digits. -/
def lengthFault (detail : String) : String :=
  "Exceeds the limit (" ++ toString maxDigits ++ " digits) for integer string conversion" ++ detail ++
    "; use sys.set_int_max_str_digits() to increase the limit"

/-- What is said of an integer that is not written. -/
def writingFault : String := lengthFault ""

/-- What is said of an integer that is not read from so many digits. -/
def readingFault (digits : Nat) : String := lengthFault (": value has " ++ toString digits ++ " digits")

/-- The number of an unsigned decimal in a script: the nearest binary64 number, as an integer if it is one. -/
def ofDecimal (mantissa : Nat) (exponent : Int) : Number :=
  (Number.float (.ofDecimal false mantissa exponent)).integral

@[simp] theorem same_int (a b : Int) : same (.int a) (.int b) = (a == b) := Point.same_ofInt a b

@[simp] theorem less_int (a b : Int) : less (.int a) (.int b) = decide (a < b) := Point.less_ofInt a b

@[simp] theorem succ_int (n : Int) : succ (.int n) = .int (n + 1) := rfl

@[simp] theorem pred_int (n : Int) : pred (.int n) = .int (n - 1) := rfl

@[simp] theorem integral_int (n : Int) : integral (.int n) = .int n := rfl

end Number
end Deflatten
