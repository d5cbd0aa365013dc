import Deflatten.SelectorTest
/-!
# The order array

A flattened script holds the order of its blocks in an array. `OrderArray.find` looks for the first declaration of a
variable with an array, then for the first assignment of one to it; failing both, the order is that of the conditionals
themselves. `OrderArray.find?` fails if the first values of the array have too many digits to be shown.
-/

namespace Deflatten

/-- Where an order comes from. -/
inductive Origin where
  | declaration
  | assignment
  | positional
  deriving DecidableEq, Repr

/-- The name of an origin. -/
def Origin.name : Origin → String
  | .declaration => "declaration"
  | .assignment => "assignment"
  | .positional => "positional"

/-- Selector values in the order in which their blocks run. -/
structure OrderArray where
  values : List Scalar
  origin : Origin
  deriving DecidableEq, Repr

/-- The numbers among the elements of an array. -/
def Tree.arrayNumbers (t : Tree) : List Number := (t.get "elements").items.filterMap Tree.number?

namespace OrderArray

/-- How many values there are. -/
def size (a : OrderArray) : Nat := a.values.length

/-- Whether no array was found. -/
def isFallback (a : OrderArray) : Bool := a.origin == .positional

/-- How many values a preview shows. -/
def previewLength : Int := 10

/-- The first values, or all but the last ones if the limit is negative. -/
def cut (limit : Int) (values : List Scalar) : List Scalar :=
  values.take (if limit < 0 then values.length - limit.natAbs else limit.toNat)

/-- The first values as they are shown. -/
def preview (a : OrderArray) (limit : Int) : String :=
  "[" ++ ", ".intercalate ((cut limit a.values).map Scalar.shown) ++ (if limit < a.size then ", ...]" else "]")

/-- That text, unless one of the values has too many digits. -/
def preview? (a : OrderArray) (limit : Int) : Option String :=
  if (cut limit a.values).all Scalar.isWritable then some (a.preview limit) else none

/-- The array that a node gives to a variable through one field, if it is of a type and names the variable in another
field. -/
def given? (tag target value : String) (name : String) (t : Tree) : Option Tree :=
  if t.hasTag tag && (t.get target).name? == some (.text name) && (t.get value).hasTag Tag.array then some (t.get value)
  else none

/-- The array that a declaration gives to a variable. -/
def declared? : String → Tree → Option Tree := given? Tag.declarator "id" "init"

/-- The array that an assignment gives to a variable, whatever its operator. -/
def assigned? : String → Tree → Option Tree := given? Tag.assignment "left" "right"

/-- The order given by an array. -/
def ofArray (origin : Origin) (array : Tree) : OrderArray := ⟨array.arrayNumbers.map .number, origin⟩

/-- The order of the conditionals of a tree. -/
def positional (t : Tree) : OrderArray :=
  ⟨(List.range t.conditionals.length).map fun (i : Nat) => .int i, .positional⟩

/-- Finds the order in a tree. Without a name there is no array to find. -/
def find (name : Option String) (t : Tree) : OrderArray :=
  match name with
  | none | some "" => positional t
  | some name =>
    let nodes := t.walk.map Visit.node
    match nodes.findSome? (declared? name), nodes.findSome? (assigned? name) with
    | some array, _ => ofArray .declaration array
    | none, some array => ofArray .assignment array
    | none, none => positional t

/-- Finds the order in a tree. An array is shown as it is found, and the order is lost if it has no preview. -/
def find? (name : Option String) (t : Tree) : Option OrderArray :=
  let a := find name t
  if a.isFallback || (a.preview? previewLength).isSome then some a else none

end OrderArray
end Deflatten
