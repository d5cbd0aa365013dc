import Deflatten.Number.Basic
/-!
# Scalars

The plain values that a tree, a settings file or a replay holds. `Scalar.same` is their equality as values: the two
kinds of numbers compare exactly, `true` equals one and `false` zero, `nan` equals nothing, and a text equals only the
same text.
-/

namespace Deflatten

/-- A plain value. -/
inductive Scalar where
  | null
  | bool (value : Bool)
  | number (value : Number)
  | text (value : String)
  deriving DecidableEq, Repr, Inhabited

namespace Scalar

/-- The number that an integer is. -/
def int (n : Int) : Scalar := .number (.int n)

/-- The number that a scalar counts as when scalars are compared. -/
def asNumber? : Scalar → Option Number
  | .bool b => some (.int (if b then 1 else 0))
  | .number n => some n
  | _ => none

/-- Equality as values. -/
def same (a b : Scalar) : Bool :=
  match a.asNumber?, b.asNumber? with
  | some m, some n => m.same n
  | none, none => a == b
  | _, _ => false

/-- Whether a scalar is no number of too many digits to be written. -/
def isWritable : Scalar → Bool
  | .number n => n.isWritable
  | _ => true

/-- A scalar as it is shown in a message. -/
def shown : Scalar → String
  | .null => "None"
  | .bool b => if b then "True" else "False"
  | .number n => n.text
  | .text s => s

@[simp] theorem same_int (a b : Int) : same (int a) (int b) = (a == b) := Number.same_int a b

@[simp] theorem same_text (a b : String) : same (.text a) (.text b) = (a == b) := by
  rw [Bool.eq_iff_iff]
  simp [same, asNumber?]

end Scalar
end Deflatten
