import Deflatten.Tree.Basic
/-!
# Walking a tree

`Tree.walk` visits every node of a tree in document order. Each visit tells the node's parent, the field it stands in,
its nesting depth (how many conditionals and blocks enclose it) and the path to it. The walk keeps the visits still to
come on a stack, so a long spine costs no depth of recursion.
-/

namespace Deflatten

namespace Tag

/-- The type of an `if` statement. -/
def conditional : String := "IfStatement"

/-- The type of a block. -/
def block : String := "BlockStatement"

/-- The type of a comparison or an arithmetic operation. -/
def binary : String := "BinaryExpression"

/-- The type of a name. -/
def name : String := "Identifier"

/-- The type of a literal. -/
def literal : String := "Literal"

/-- The type of one declared variable. -/
def declarator : String := "VariableDeclarator"

/-- The type of an assignment. -/
def assignment : String := "AssignmentExpression"

/-- The type of an array literal. -/
def array : String := "ArrayExpression"

end Tag

namespace Tree

/-- Whether a tree is an `if` statement. -/
def isConditional (t : Tree) : Bool := t.hasTag Tag.conditional

/-- Whether a tree is a block. -/
def isBlock (t : Tree) : Bool := t.hasTag Tag.block

/-- How much deeper the children of a node lie. -/
def nesting (t : Tree) : Nat := if t.isConditional || t.isBlock then 1 else 0

/-- The size of some trees together. -/
noncomputable def sizes : List Tree → Nat
  | [] => 0
  | t :: ts => sizeOf t + sizes ts

@[simp] theorem sizes_append (ts us : List Tree) : sizes (ts ++ us) = sizes ts + sizes us := by
  induction ts with
  | nil => simp [sizes]
  | cons t ts ih => simp only [List.cons_append, sizes, ih]; omega

theorem sizes_itemChildren_le (name : String) (i : Nat) (ts : List Tree) :
    sizes ((itemChildren name i ts).map Prod.snd) ≤ sizeOf ts := by
  induction ts generalizing i with
  | nil => simp [itemChildren, sizes]
  | cons t ts ih =>
    have := ih (i + 1)
    simp only [itemChildren, List.cons.sizeOf_spec]
    split
    · simp only [List.map_cons, sizes]; omega
    · omega

theorem sizes_slotChildren_le (name : String) (t : Tree) : sizes ((slotChildren name t).map Prod.snd) ≤ sizeOf t := by
  match t with
  | .scalar _ => simp [slotChildren, sizes]
  | .record _ => simp [slotChildren, sizes]
  | .node _ _ => simp [slotChildren, sizes]
  | .list ts =>
    have := sizes_itemChildren_le name 0 ts
    simp only [slotChildren, Tree.list.sizeOf_spec]
    omega

theorem sizes_fieldChildren_le (fs : List (String × Tree)) : sizes ((fieldChildren fs).map Prod.snd) ≤ sizeOf fs := by
  induction fs with
  | nil => simp [fieldChildren, sizes]
  | cons f fs ih =>
    obtain ⟨name, value⟩ := f
    have := sizes_slotChildren_le name value
    simp only [fieldChildren, List.map_append, sizes_append, List.cons.sizeOf_spec, Prod.mk.sizeOf_spec]
    split
    · simp only [List.map_nil, sizes]; omega
    · omega

/-- The children of a node are together smaller than the node. -/
theorem sizes_children_lt (t : Tree) : sizes (t.children.map Prod.snd) < sizeOf t := by
  match t with
  | .scalar _ => simp only [children, List.map_nil, sizes, Tree.scalar.sizeOf_spec]; omega
  | .record _ => simp only [children, List.map_nil, sizes, Tree.record.sizeOf_spec]; omega
  | .list _ => simp only [children, List.map_nil, sizes, Tree.list.sizeOf_spec]; omega
  | .node _ fs =>
    have := sizes_fieldChildren_le fs
    simp only [children, Tree.node.sizeOf_spec]
    omega

end Tree

/-- A node reached in a walk, with its surroundings. -/
structure Visit where
  node : Tree
  parent : Option Tree
  field : Option String
  depth : Nat
  path : List Step

namespace Visit

/-- The visit of the root. -/
def root (t : Tree) : Visit := ⟨t, none, none, 0, []⟩

/-- Whether the node stands in the `else` part of an `if` statement. -/
def isElseBranch (v : Visit) : Bool :=
  v.field == some "alternate" && v.parent.any Tree.isConditional

/-- The visits of a node's children. -/
def next (v : Visit) : List Visit :=
  v.node.children.map fun (s, t) => ⟨t, some v.node, some s.field, v.depth + v.node.nesting, v.path ++ [s]⟩

theorem sizes_next_lt (v : Visit) : Tree.sizes (v.next.map Visit.node) < sizeOf v.node := by
  have := v.node.sizes_children_lt
  simpa only [next, List.map_map, Function.comp_def] using this

end Visit

/-- The visits that a stack of pending ones leads to. -/
def walkFrom : List Visit → List Visit
  | [] => []
  | v :: pending => v :: walkFrom (v.next ++ pending)
termination_by pending => Tree.sizes (pending.map Visit.node)
decreasing_by
  have := v.sizes_next_lt
  simp only [List.map_append, Tree.sizes_append, List.map_cons, Tree.sizes]
  omega

namespace Tree

/-- The visits of all nodes in document order. -/
def walk (t : Tree) : List Visit := walkFrom [Visit.root t]

/-- The visits of the nodes of one type. -/
def walkTag (t : Tree) (tag : String) : List Visit := t.walk.filter fun v => v.node.hasTag tag

/-- The visits of the `if` statements. -/
def conditionals (t : Tree) : List Visit := t.walkTag Tag.conditional

end Tree
end Deflatten
