import Deflatten.Number.Basic
/-!
# JSON values

An object keeps its members in order. Setting a member that is there already changes its value and keeps its place.
-/

namespace Deflatten

/-- A JSON value. -/
inductive Json where
  | null
  | bool (value : Bool)
  | number (value : Number)
  | text (value : String)
  | list (items : List Json)
  | object (members : List (String × Json))
  deriving Repr

namespace Json

instance : Inhabited Json := ⟨.null⟩

/-- An integer as a value. -/
def int (n : Int) : Json := .number (.int n)

/-- Sets a member, at its place if the name is there and at the end if not. -/
def setMember (name : String) (value : Json) : List (String × Json) → List (String × Json)
  | [] => [(name, value)]
  | (n, v) :: ms => if n = name then (n, value) :: ms else (n, v) :: setMember name value ms

/-- The members of an object; nothing else has any. -/
def members : Json → List (String × Json)
  | .object ms => ms
  | _ => []

/-- The value of a member. -/
def get? (j : Json) (name : String) : Option Json := j.members.lookup name

mutual

/-- The numbers in a value, in order. -/
def numbers : Json → List Number
  | .null | .bool _ | .text _ => []
  | .number n => [n]
  | .list js => itemNumbers js
  | .object ms => memberNumbers ms

/-- The numbers in some values. -/
def itemNumbers : List Json → List Number
  | [] => []
  | j :: js => numbers j ++ itemNumbers js

/-- The numbers in the value of a member. -/
def numbersOfMember : String × Json → List Number
  | (_, value) => numbers value

/-- The numbers in the values of some members. -/
def memberNumbers : List (String × Json) → List Number
  | [] => []
  | m :: ms => numbersOfMember m ++ memberNumbers ms

end

@[simp] theorem lookup_setMember_self (name : String) (value : Json) (ms : List (String × Json)) :
    (setMember name value ms).lookup name = some value := by
  induction ms with
  | nil => simp [setMember]
  | cons m ms ih =>
    obtain ⟨n, v⟩ := m
    rw [setMember]
    split
    · next h => simp [h]
    · next h => simp [List.lookup_cons, ih, beq_eq_false_iff_ne.2 (Ne.symm h)]

end Json
end Deflatten
