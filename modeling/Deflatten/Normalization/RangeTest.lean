import Deflatten.Normalization.Metrics
import Deflatten.SelectorTest
/-!
# Lowering range tests

A dispatcher may catch its last remaining value `N - 1` by `name < N`. The pass turns every such test into
`name === N - 1`, unless `N - 1` lies below zero. Only the shape of a comparison counts, so any other comparison of
that shape is lowered too.
-/

namespace Deflatten.RangeTest

/-- The equality test that a range test is lowered to; `none` if a tree is no range test or must stay. -/
def lowered? (t : Tree) : Option SelectorTest := do
  let test ← SelectorTest.ofTree? t
  guard (test.operator == SelectorTest.lessThan && !test.value.pred.isNegative)
  return .equals test.name test.value.pred

/-- What a field holds after the pass. If its node is lowered itself, the operator and the right operand are those of
the node's equality test. -/
def fieldValue (own : Option SelectorTest) (name : String) (value lowered : Tree) : Tree :=
  match own with
  | some test =>
    if name == "operator" then .text test.operator
    else if name == "right" then .number test.value
    else if Tree.isNote name then value
    else lowered
  | none => if Tree.isNote name then value else lowered

mutual

/-- Lowers the range tests at the nodes of a tree or a list. -/
def lower : Tree → Tree
  | .node tag fs => .node tag (lowerFields (lowered? (.node tag fs)) fs)
  | .list ts => .list (lowerItems ts)
  | t => t

/-- Lowers the range tests below a node; if the node itself is lowered, its equality test is given. -/
def lowerFields (own : Option SelectorTest) : List (String × Tree) → List (String × Tree)
  | [] => []
  | (name, value) :: fs => (name, fieldValue own name value (lower value)) :: lowerFields own fs

/-- Lowers the range tests at the nodes of a list. -/
def lowerItems : List Tree → List Tree
  | [] => []
  | t :: ts => (if t.isNode then lower t else t) :: lowerItems ts

end

mutual

/-- How many range tests are lowered in a tree or a list. -/
def count : Tree → Nat
  | .node tag fs =>
    let own := (lowered? (.node tag fs)).isSome
    countFields own fs + if own then 1 else 0
  | .list ts => countItems ts
  | _ => 0

/-- How many range tests are lowered below a node, of which it is known whether it is lowered itself. -/
def countFields (own : Bool) : List (String × Tree) → Nat
  | [] => 0
  | (name, value) :: fs => (if own && name == "right" || Tree.isNote name then 0 else count value) + countFields own fs

/-- How many range tests are lowered at the nodes of a list. -/
def countItems : List Tree → Nat
  | [] => 0
  | t :: ts => (if t.isNode then count t else 0) + countItems ts

end

/-- The counts of a run. -/
def metrics (t : Tree) : Metrics := { loweredRanges := count t }

end Deflatten.RangeTest
