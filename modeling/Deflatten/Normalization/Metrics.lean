/-!
# Metrics

What the passes over a tree count. Counts are integers, so that any corrections can be added up.
-/

namespace Deflatten

/-- Counts of one or more runs of the passes. -/
structure Metrics where
  chainsSeen : Int := 0
  guardedElses : Int := 0
  loweredRanges : Int := 0
  skippedChains : Int := 0
  deriving DecidableEq, Repr, Inhabited

namespace Metrics

instance : Add Metrics where
  add a b := ⟨a.chainsSeen + b.chainsSeen, a.guardedElses + b.guardedElses, a.loweredRanges + b.loweredRanges,
    a.skippedChains + b.skippedChains⟩

/-- The counts as they are shown. -/
def describe (m : Metrics) : String :=
  "chains=" ++ toString m.chainsSeen ++ " else_rewrites=" ++ toString m.guardedElses ++ " less_than_rewrites=" ++
    toString m.loweredRanges ++ " skipped=" ++ toString m.skippedChains

@[simp] theorem add_chainsSeen (a b : Metrics) : (a + b).chainsSeen = a.chainsSeen + b.chainsSeen := rfl

@[simp] theorem add_guardedElses (a b : Metrics) : (a + b).guardedElses = a.guardedElses + b.guardedElses := rfl

@[simp] theorem add_loweredRanges (a b : Metrics) : (a + b).loweredRanges = a.loweredRanges + b.loweredRanges := rfl

@[simp] theorem add_skippedChains (a b : Metrics) : (a + b).skippedChains = a.skippedChains + b.skippedChains := rfl

end Metrics
end Deflatten
