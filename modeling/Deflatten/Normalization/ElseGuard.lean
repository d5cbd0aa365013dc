import Deflatten.Normalization.DepthIndex
import Deflatten.Normalization.Metrics
import Deflatten.SelectorTest
/-!
# Guarding final elses

A chain that tests a selector for values often leaves its last value to a plain `else`. The pass gives that `else` an
equality test of its own, for the next value that the chain does not use.

`ElseGuard.step` treats the chain at one head. `ElseGuard.run` treats all heads of a tree, the outermost first. A head
that lies within a block that has just been guarded is found one level deeper, so the heads still to come are rerouted.
-/

namespace Deflatten

/-- A way from the root of a tree to a node. -/
abbrev TreePath := List Step

namespace ElseGuard

/-- The values for which a chain tests a variable, in chain order. -/
def usedValues (head : Tree) (name : Scalar) : List Number :=
  (head.chain.filterMap SelectorTest.ofConditional?).filterMap fun t => if t.tests name then some t.value else none

/-- The greater of two numbers; the first if the second is not above it. -/
def greater (a b : Number) : Number := if a.less b then b else a

/-- The test for the next value that a chain does not use; its head must be an equality test. -/
def nextSelector (head : Tree) : Option SelectorTest := do
  let test ← SelectorTest.ofConditional? head
  guard test.isEquality
  match usedValues head test.name with
  | [] => none
  | value :: values => some (.equals test.name (values.foldl greater value).succ)

/-- What became of a chain: it ends in no block, its head is no equality test, or its `else` has a test now. -/
inductive Outcome where
  | noElse
  | unrecognised
  | guarded (test : SelectorTest)
  deriving DecidableEq, Repr

/-- Whether the final `else` of a chain was guarded. -/
def Outcome.isGuarded : Outcome → Bool
  | .guarded _ => true
  | _ => false

/-- The path to the tail of the chain at a head. -/
def tailPath (t : Tree) (head : TreePath) : TreePath :=
  match t.at? head with
  | some h => head ++ chainPath (h.chain.length - 1)
  | none => head

/-- What is to become of the chain that a tree heads. -/
def outcome (head : Tree) : Outcome :=
  if (head.chainTail.get "alternate").isBlock then
    match nextSelector head with
    | some test => .guarded test
    | none => .unrecognised
  else .noElse

/-- Puts a test before the `else` part of a tail. -/
def guardTail (test : SelectorTest) (tail : Tree) : Tree :=
  tail.set "alternate" (.ifThen test.toTree (tail.get "alternate") .null)

/-- Treats the chain at a head. -/
def step (t : Tree) (head : TreePath) : Tree × Outcome :=
  match t.at? head with
  | none => (t, .noElse)
  | some h =>
    match outcome h with
    | .guarded test => (t.modifyAt (guardTail test) (tailPath t head), .guarded test)
    | o => (t, o)

/-- The step from a guarded `else` part to the block that it holds. -/
def consequentStep : Step := ⟨"consequent", none⟩

/-- A path after the block at the end of another has been guarded. -/
def reroute (moved path : TreePath) : TreePath :=
  if moved.isPrefixOf path then moved ++ consequentStep :: path.drop moved.length else path

/-- Treats the chains at some heads in order. -/
def steps (t : Tree) : List TreePath → Tree × List Outcome
  | [] => (t, [])
  | head :: heads =>
    let moved := tailPath t head ++ [alternateStep]
    let (t', o) := step t head
    let (t'', os) := steps t' (if o.isGuarded then heads.map (reroute moved) else heads)
    (t'', o :: os)
termination_by heads => heads.length
decreasing_by split <;> simp

/-- Treats all chains of a tree, the outermost first. -/
def run (t : Tree) : Tree × List Outcome := steps t ((DepthIndex.ofTree t).outerFirst.map Visit.path)

/-- How many chains got a guard. -/
def guardedCount (os : List Outcome) : Nat := os.countP Outcome.isGuarded

/-- The counts of a run. -/
def metrics (os : List Outcome) : Metrics :=
  { chainsSeen := os.length, guardedElses := guardedCount os, skippedChains := os.length - guardedCount os }

end ElseGuard
end Deflatten
