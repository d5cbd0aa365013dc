import Deflatten.Tree.Chain
import Mathlib.Data.List.Basic
/-!
# The walk as a recursion

The walk of a tree keeps the visits still to come on a stack. `Tree.walk_eq` gives it as a recursion instead: a node
comes first, then the walks of its children in order, each seen from the node. `Tree.nodes` lists the nodes alone, and
`Tree.induction_children` is the induction that follows the recursion.
-/

namespace Deflatten

namespace Visit

/-- A visit in the walk of a node, as it is seen where the node itself is visited by `v`. -/
def under (v u : Visit) : Visit :=
  ⟨u.node, u.parent.or v.parent, u.field.or v.field, v.depth + u.depth, v.path ++ u.path⟩

@[simp] theorem under_node (v u : Visit) : (v.under u).node = u.node := rfl

@[simp] theorem under_path (v u : Visit) : (v.under u).path = v.path ++ u.path := rfl

@[simp] theorem under_root (v : Visit) : v.under (.root v.node) = v := by
  simp [under, root]

theorem under_under (v u w : Visit) : (v.under u).under w = v.under (u.under w) := by
  simp [under, Nat.add_assoc, Option.or_assoc]

theorem next_eq_map_under (v : Visit) : v.next = (Visit.root v.node).next.map v.under := by
  simp [next, under, root]

theorem sizeOf_next_lt {v w : Visit} (h : w ∈ v.next) : sizeOf w.node < sizeOf v.node := by
  have hle : ∀ vs : List Visit, w ∈ vs → sizeOf w.node ≤ Tree.sizes (vs.map Visit.node) := by
    intro vs hw
    induction vs with
    | nil => cases hw
    | cons u us ih =>
      simp only [List.map_cons, Tree.sizes]
      rcases List.mem_cons.mp hw with rfl | hw
      · omega
      · have := ih hw
        omega
  exact Nat.lt_of_le_of_lt (hle v.next h) v.sizes_next_lt

end Visit

theorem walkFrom_cons (v : Visit) (pending : List Visit) : walkFrom (v :: pending) = v :: walkFrom (v.next ++ pending) := by
  rw [walkFrom]

theorem walkFrom_append (vs ws : List Visit) : walkFrom (vs ++ ws) = walkFrom vs ++ walkFrom ws := by
  fun_induction walkFrom vs with
  | case1 => rfl
  | case2 v pending ih => rw [List.cons_append, walkFrom_cons, ← List.append_assoc, ih, List.cons_append]

theorem walkFrom_eq_flatMap (vs : List Visit) : walkFrom vs = vs.flatMap fun v => walkFrom [v] := by
  induction vs with
  | nil => simp [walkFrom]
  | cons v vs ih =>
    have hsplit : walkFrom (v :: vs) = walkFrom [v] ++ walkFrom vs := walkFrom_append [v] vs
    rw [hsplit, ih, List.flatMap_cons]

/-- What a stacked visit leads to is the walk of its node, seen from it. -/
theorem walkFrom_singleton (v : Visit) : walkFrom [v] = v.node.walk.map v.under := by
  generalize hn : sizeOf v.node = n
  induction n using Nat.strongRecOn generalizing v with
  | ind n ih =>
    have hstep : ∀ w ∈ (Visit.root v.node).next, walkFrom [v.under w] = (walkFrom [w]).map v.under := by
      intro w hw
      have hlt : sizeOf w.node < n := hn ▸ Visit.sizeOf_next_lt (v := .root v.node) hw
      rw [ih _ hlt (v.under w) rfl, ih _ hlt w rfl, List.map_map]
      simp [Function.comp_def, Visit.under_under]
    rw [Tree.walk, walkFrom_cons, walkFrom_cons, List.append_nil, List.append_nil, List.map_cons, Visit.under_root]
    congr 1
    rw [walkFrom_eq_flatMap v.next, walkFrom_eq_flatMap (Visit.root v.node).next, Visit.next_eq_map_under,
      List.flatMap_map, List.map_flatMap]
    exact List.flatMap_congr hstep

/-- The visit of a child in the walk of a node. -/
def Visit.ofChild (t : Tree) (c : Step × Tree) : Visit := ⟨c.2, some t, some c.1.field, t.nesting, [c.1]⟩

theorem Visit.next_root (t : Tree) : (Visit.root t).next = t.children.map (Visit.ofChild t) := by
  simp [next, root, ofChild]

namespace Tree

/-- The walk visits a node, and then walks its children in order. -/
theorem walk_eq (t : Tree) :
    t.walk = .root t :: t.children.flatMap fun c => c.2.walk.map (Visit.ofChild t c).under := by
  rw [walk, walkFrom_cons, List.append_nil, walkFrom_eq_flatMap, Visit.next_root, List.flatMap_map]
  simp only [walkFrom_singleton]
  rfl

/-- What holds of a tree if it holds of its children holds of every tree. -/
theorem induction_children {motive : Tree → Prop} (step : ∀ t : Tree, (∀ c ∈ t.children, motive c.2) → motive t)
    (t : Tree) : motive t := by
  generalize hn : sizeOf t = n
  induction n using Nat.strongRecOn generalizing t with
  | ind n ih =>
    refine step t fun c hc => ?_
    have hnext : Visit.ofChild t c ∈ (Visit.root t).next := by
      rw [Visit.next_root]
      exact List.mem_map_of_mem hc
    exact ih _ (hn ▸ Visit.sizeOf_next_lt hnext) c.2 rfl

/-! ## Nodes -/

/-- The nodes of a tree in document order, itself first. -/
def nodes (t : Tree) : List Tree := t.walk.map Visit.node

theorem nodes_eq (t : Tree) : t.nodes = t :: t.children.flatMap fun c => c.2.nodes := by
  rw [nodes, walk_eq, List.map_cons, List.map_flatMap]
  simp [Visit.root, nodes, List.map_map, Function.comp_def]

theorem mem_nodes_self (t : Tree) : t ∈ t.nodes := by
  rw [nodes_eq]
  exact List.mem_cons_self

theorem mem_nodes_iff {t u : Tree} : u ∈ t.nodes ↔ u = t ∨ ∃ c ∈ t.children, u ∈ c.2.nodes := by
  rw [nodes_eq, List.mem_cons, List.mem_flatMap]

theorem mem_nodes_of_child {t u : Tree} {c : Step × Tree} (hc : c ∈ t.children) (hu : u ∈ c.2.nodes) :
    u ∈ t.nodes :=
  mem_nodes_iff.mpr (.inr ⟨c, hc, hu⟩)

/-- The nodes of a node of a tree are nodes of the tree. -/
theorem nodes_subset {t u : Tree} (h : u ∈ t.nodes) : u.nodes ⊆ t.nodes := by
  induction t using induction_children with
  | step t ih =>
    intro w hw
    rcases mem_nodes_iff.mp h with rfl | ⟨c, hc, hu⟩
    · exact hw
    · exact mem_nodes_of_child hc (ih c hc hu hw)

/-! ## Paths to nodes -/

/-- A path leads from a tree to a node of it, from child to child. -/
inductive Leads : Tree → List Step → Tree → Prop
  | here (t : Tree) : Leads t [] t
  | child {t c u : Tree} {s : Step} {p : List Step} : (s, c) ∈ t.children → Leads c p u → Leads t (s :: p) u

end Tree
end Deflatten
