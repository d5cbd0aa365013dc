import Deflatten.Normalization.ElseGuard
import Deflatten.Normalization.RangeTest
/-!
# Normalization

Both passes over a tree: final elses are guarded first, then range tests are lowered, if that is wanted.
-/

namespace Deflatten

/-- What normalization made of a tree: the tree, the fate of its chains, and how many range tests were lowered if that
was asked for. -/
structure Normalized where
  tree : Tree
  chains : List ElseGuard.Outcome
  lowered : Option Nat

namespace Normalized

/-- Normalizes a tree. -/
def ofTree (t : Tree) (lowerRanges : Bool) : Normalized :=
  let (guarded, chains) := ElseGuard.run t
  if lowerRanges then ⟨RangeTest.lower guarded, chains, some (RangeTest.count guarded)⟩ else ⟨guarded, chains, none⟩

/-- The counts of both passes. -/
def metrics (n : Normalized) : Metrics := ElseGuard.metrics n.chains + { loweredRanges := n.lowered.getD 0 }

end Normalized
end Deflatten
