/-!
# How long a match may be

The least and the greatest length of what a part of a pattern matches. What is looked for behind a place must have one
length.
-/

namespace Deflatten.Script.Pattern

/-- The least and the greatest length of a match, where no bound is `none`. -/
structure Width where
  least : Nat
  most : Option Nat
  deriving DecidableEq, Repr

namespace Width

/-- The width of so many characters. -/
def exactly (n : Nat) : Width := ⟨n, some n⟩

/-- One part after the other. -/
def append (a b : Width) : Width := ⟨a.least + b.least, (a.most.bind fun m => b.most.map (m + ·))⟩

/-- One part or the other. -/
def either (a b : Width) : Width := ⟨min a.least b.least, (a.most.bind fun m => b.most.map (max m ·))⟩

/-- A part repeated. What is repeated without bound, but is empty or never there, has a bound all the same. -/
def repeated (w : Width) (least : Nat) (most : Option Nat) : Width where
  least := w.least * least
  most :=
    match w.most, most with
    | some m, some n => some (m * n)
    | some 0, none => some 0
    | none, some 0 => some 0
    | _, _ => none

/-- Whether all matches have one length. -/
def isFixed (w : Width) : Bool := w.most == some w.least

/-- What is looked for behind a place is shorter than this. -/
def tooLong : Nat := 0x80000000

/-- Whether something may be looked for behind a place. -/
def mayBeBehind (w : Width) : Bool := w.isFixed && w.least < tooLong

@[simp] theorem isFixed_exactly (n : Nat) : (exactly n).isFixed = true := by simp [isFixed, exactly]

end Width
end Deflatten.Script.Pattern
