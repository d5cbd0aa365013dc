import Deflatten.Normalization.Basic
/-!
# Passes that halt

A test for a number of too many digits cannot be written. A pass that comes to such a test halts there; what it has
done before that stays. `Normalized.halted?` tells what is left of a tree then, and is `none` for the passes that run
to their end.
-/

namespace Deflatten

namespace ElseGuard

/-- Whether the test that a chain gets, if it gets one, can be written. -/
def Outcome.isWritable : Outcome → Bool
  | .guarded test => test.value.isWritable
  | _ => true

/-- The tree and the counts of a pass that halts: the chain at which it does counts as seen, but no guard counts. -/
def halted? (t : Tree) : Option (Tree × Metrics) :=
  ((run t).2.findIdx? fun o => !o.isWritable).map fun k =>
    let (u, os) := steps t (((DepthIndex.ofTree t).outerFirst.map Visit.path).take k)
    (u, { chainsSeen := k + 1, skippedChains := os.length - guardedCount os })

end ElseGuard

namespace RangeTest

/-- The equality tests for the range tests of a tree, each with the path to it, in document order. -/
def replacements (t : Tree) : List (TreePath × SelectorTest) :=
  t.walk.filterMap fun v => (lowered? v.node).map fun test => (v.path, test)

/-- Puts an equality test in place of a range test. -/
def replace (t : Tree) (r : TreePath × SelectorTest) : Tree :=
  t.modifyAt (fun u => (u.set "operator" (.text r.2.operator)).set "right" (.number r.2.value)) r.1

/-- The tree of a pass that halts. -/
def halted? (t : Tree) : Option Tree :=
  let rs := replacements t
  if rs.all fun r => r.2.value.isWritable then none
  else some ((rs.takeWhile fun r => r.2.value.isWritable).foldl replace t)

end RangeTest

/-- The tree that is left when one of the passes halts. -/
def Normalized.halted? (t : Tree) (lowerRanges : Bool) : Option Tree :=
  match ElseGuard.halted? t with
  | some (u, _) => some u
  | none => if lowerRanges then RangeTest.halted? (ElseGuard.run t).1 else none

end Deflatten
