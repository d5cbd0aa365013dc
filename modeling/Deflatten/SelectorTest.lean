import Deflatten.Tree.Chain
/-!
# Selector tests

A dispatcher tests its selector variable by `name === N` or `name < N`. `SelectorTest.ofTree?` recognises such a test
in a tree and `SelectorTest.toTree` writes one; any other test is opaque.
-/

namespace Deflatten

/-- A comparison of a variable with a number. Only the operators `===` and `<` are ever recognised. The name of a
variable is a text, unless the tree was built by hand. -/
structure SelectorTest where
  name : Scalar
  operator : String
  value : Number
  deriving DecidableEq, Repr

namespace Tree

/-- A number as a literal. -/
def number (n : Number) : Tree := .node Tag.literal [("value", .scalar (.number n)), ("raw", .text n.shortText)]

/-- An `if` statement. -/
def ifThen (test consequent alternate : Tree) : Tree :=
  .node Tag.conditional [("test", test), ("consequent", consequent), ("alternate", alternate)]

/-- The number that a literal holds, an integral one as an integer. -/
def number? (t : Tree) : Option Number :=
  if t.hasTag Tag.literal then
    match t.get "value" with
    | .scalar (.number n) => some n.integral
    | _ => none
  else none

/-- The value that a name holds, if it is not empty. -/
def name? (t : Tree) : Option Scalar :=
  match t.get "name" with
  | .scalar name => if t.hasTag Tag.name && name != .null then some name else none
  | _ => none

/-- The text of an operator. -/
def operator? (t : Tree) : Option String := (t.get "operator").text?

end Tree

namespace SelectorTest

/-- The operator of an equality test. -/
def equality : String := "==="

/-- The operator of a range test. -/
def lessThan : String := "<"

/-- An equality test. -/
def equals (name : Scalar) (value : Number) : SelectorTest := ⟨name, equality, value⟩

/-- Whether a test is an equality test. -/
def isEquality (t : SelectorTest) : Bool := t.operator == equality

/-- Whether a test is an equality test of a variable. -/
def tests (t : SelectorTest) (name : Scalar) : Bool := t.isEquality && t.name.same name

/-- Recognises a test. -/
def ofTree? (t : Tree) : Option SelectorTest :=
  if t.hasTag Tag.binary then
    match t.operator?, (t.get "left").name?, (t.get "right").number? with
    | some operator, some name, some value =>
      if operator == equality || operator == lessThan then some ⟨name, operator, value⟩ else none
    | _, _, _ => none
  else none

/-- Writes a test. -/
def toTree (t : SelectorTest) : Tree :=
  .node Tag.binary [("operator", .text t.operator), ("left", .node Tag.name [("name", .scalar t.name)]),
    ("right", .number t.value)]

/-- A test as it is shown. -/
def describe (t : SelectorTest) : String := t.name.shown ++ " " ++ t.operator ++ " " ++ t.value.shortText

/-- The test of an `if` statement. -/
def ofConditional? (t : Tree) : Option SelectorTest := ofTree? (t.get "test")

end SelectorTest
end Deflatten
