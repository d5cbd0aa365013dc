import Deflatten.Tree.Walk
/-!
# Heads by depth

`DepthIndex.ofTree` groups the heads of the chains of a tree by their nesting depth. `DepthIndex.outerFirst` lists
them from the outermost depth inwards, and within a depth in document order.
-/

namespace Deflatten

/-- The heads at each depth at which there are any, the depths ascending. -/
structure DepthIndex where
  levels : List (Nat × List Visit)

namespace DepthIndex

/-- Adds a head at the end of its depth. -/
def insert (v : Visit) : List (Nat × List Visit) → List (Nat × List Visit)
  | [] => [(v.depth, [v])]
  | (depth, vs) :: levels =>
    if v.depth < depth then (v.depth, [v]) :: (depth, vs) :: levels
    else if v.depth = depth then (depth, vs ++ [v]) :: levels
    else (depth, vs) :: insert v levels

/-- The heads of the chains of a tree: the `if` statements that are not the `else` part of another. -/
def heads (t : Tree) : List Visit := t.conditionals.filter fun v => !v.isElseBranch

/-- The heads of the chains of a tree, by depth. -/
def ofTree (t : Tree) : DepthIndex := ⟨(heads t).foldl (fun levels v => insert v levels) []⟩

/-- The heads from the outermost depth inwards. -/
def outerFirst (i : DepthIndex) : List Visit := i.levels.flatMap Prod.snd

/-- How many heads there are. -/
def size (i : DepthIndex) : Nat := i.levels.foldr (fun l n => l.2.length + n) 0

end DepthIndex
end Deflatten
