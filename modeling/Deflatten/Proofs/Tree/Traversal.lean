import Deflatten.Proofs.Normalization.Heads
import Deflatten.Proofs.Tree.DocumentOrder
import Mathlib.Logic.Function.Iterate
/-!
# The stack of the walk

`Visit.preorder` is the traversal as one would write it without a stack: a node, then for each of its fields in order
what lies in the node there or in the nodes of the list there. `Traversal` is the loop that the walk stands for, round
by round. The loop has no other state than the visits that it has made and the stack, and what is on the stack is the
rest of the traversal (`Traversal.iterate_round`). The main statement is `Tree.walk_traverses`.
-/

namespace Deflatten

namespace Visit

/-- The visit of a child of a visited node. -/
def child (v : Visit) (s : Step) (c : Tree) : Visit :=
  ⟨c, some v.node, some s.field, if v.node.isConditional || v.node.isBlock then v.depth + 1 else v.depth, v.path ++ [s]⟩

mutual

/-- The visits below the fields of the node that `v` visits, in order. -/
def belowFields (v : Visit) : List (String × Tree) → List Visit
  | [] => []
  | (name, value) :: fs => (if Tree.isNote name then [] else belowSlot v name value) ++ belowFields v fs

/-- The visits in the value of one field. -/
def belowSlot (v : Visit) (name : String) : Tree → List Visit
  | .node tag fs =>
    let w := v.child ⟨name, none⟩ (.node tag fs)
    w :: belowFields w fs
  | .list ts => belowItems v name 0 ts
  | _ => []

/-- The visits in the items of a list in a field, counted from `i`; what is no node is passed over. -/
def belowItems (v : Visit) (name : String) : Nat → List Tree → List Visit
  | _, [] => []
  | i, .node tag fs :: ts =>
    let w := v.child ⟨name, some i⟩ (.node tag fs)
    w :: (belowFields w fs ++ belowItems v name (i + 1) ts)
  | i, _ :: ts => belowItems v name (i + 1) ts

end

/-- A visit and all visits below it, by recursion over the tree. -/
def preorder (v : Visit) : List Visit :=
  match v.node with
  | .node _ fs => v :: belowFields v fs
  | _ => [v]

theorem next_eq_map_child (v : Visit) : v.next = v.node.children.map fun c => v.child c.1 c.2 := by
  have hdepth : (if v.node.isConditional || v.node.isBlock then v.depth + 1 else v.depth) =
      v.depth + v.node.nesting := by
    rw [Tree.nesting]
    split <;> rfl
  simp only [next, child, hdepth]

theorem belowItems_eq (v : Visit) (name : String) (i : Nat) (ts : List Tree) :
    v.belowItems name i ts = (Tree.itemChildren name i ts).flatMap fun c => (v.child c.1 c.2).preorder := by
  induction ts generalizing i with
  | nil => rfl
  | cons u us ih =>
    cases u with
    | node tag fs =>
      have hnode : (Tree.node tag fs).isNode := rfl
      rw [belowItems, ih, Tree.itemChildren, if_pos hnode, List.flatMap_cons]
      rfl
    | _ =>
      rw [belowItems, ih, Tree.itemChildren, if_neg (by simp [Tree.isNode, Tree.tag?])]
      all_goals simp

theorem belowSlot_eq (v : Visit) (name : String) (value : Tree) :
    v.belowSlot name value = (Tree.slotChildren name value).flatMap fun c => (v.child c.1 c.2).preorder := by
  cases value with
  | node tag fs => simp [belowSlot, Tree.slotChildren, preorder, child]
  | list ts => rw [belowSlot, Tree.slotChildren, belowItems_eq]
  | _ => simp [belowSlot, Tree.slotChildren]

theorem belowFields_eq (v : Visit) (fs : List (String × Tree)) :
    v.belowFields fs = (Tree.fieldChildren fs).flatMap fun c => (v.child c.1 c.2).preorder := by
  induction fs with
  | nil => rfl
  | cons f fs ih =>
    obtain ⟨name, value⟩ := f
    rw [belowFields, ih, belowSlot_eq, Tree.fieldChildren, List.flatMap_append]
    split <;> rfl

/-- The recursion goes through the children in order. -/
theorem preorder_eq (v : Visit) : v.preorder = v :: v.next.flatMap preorder := by
  rw [next_eq_map_child, List.flatMap_map, preorder]
  cases v.node with
  | node tag fs => exact congrArg (v :: ·) (belowFields_eq v fs)
  | _ => rfl

end Visit

/-- What is on a stack leads to what the recursion visits there. -/
theorem walkFrom_eq_preorder (vs : List Visit) : walkFrom vs = vs.flatMap Visit.preorder := by
  fun_induction walkFrom vs with
  | case1 => rfl
  | case2 v pending ih => rw [ih, List.flatMap_append, List.flatMap_cons, Visit.preorder_eq, List.cons_append]

/-! ## The loop -/

/-- The state of the loop: the visits made so far, and the stack with its top at the end. -/
structure Traversal where
  made : List Visit
  stack : List Visit

namespace Traversal

/-- The state before the first round. -/
def start (t : Tree) : Traversal := ⟨[], [.root t]⟩

/-- One round: the visit on top is made, and the visits of the children are pushed from the last to the first. -/
def round (s : Traversal) : Traversal :=
  match s.stack.getLast? with
  | none => s
  | some v => ⟨s.made ++ [v], s.stack.dropLast ++ v.next.reverse⟩

/-- What the stack leads to, read from its top. -/
def rest (s : Traversal) : List Visit := s.stack.reverse.flatMap Visit.preorder

theorem rest_eq_nil_iff {s : Traversal} : s.rest = [] ↔ s.stack = [] := by
  rw [rest, List.flatMap_eq_nil_iff]
  refine ⟨fun h => List.eq_nil_iff_forall_not_mem.mpr fun v hv => ?_, fun h => by simp [h]⟩
  have hnone := h v (List.mem_reverse.mpr hv)
  rw [Visit.preorder_eq] at hnone
  cases hnone

/-- A round makes the first of the visits that the stack leads to; then the stack leads to the others. -/
theorem round_eq (s : Traversal) : s.round.made = s.made ++ s.rest.take 1 ∧ s.round.rest = s.rest.drop 1 := by
  obtain ⟨made, stack⟩ := s
  rcases List.eq_nil_or_concat stack with rfl | ⟨below, v, rfl⟩
  · simp [round, rest]
  · have hrest : rest ⟨made, below.concat v⟩ = v :: (v.next ++ below.reverse).flatMap Visit.preorder := by
      rw [rest, List.concat_eq_append, List.reverse_concat, List.flatMap_cons, Visit.preorder_eq, List.flatMap_append]
      rfl
    rw [hrest]
    simp [round, rest]

/-- After `n` rounds the first `n` of the visits are made, and the stack leads to the others. -/
theorem iterate_round (s : Traversal) (n : Nat) :
    (round^[n] s).made = s.made ++ s.rest.take n ∧ (round^[n] s).rest = s.rest.drop n := by
  induction n with
  | zero => simp
  | succ n ih =>
    obtain ⟨hmade, hrest⟩ := round_eq (round^[n] s)
    rw [Function.iterate_succ_apply', hmade, hrest, ih.1, ih.2]
    refine ⟨?_, List.drop_drop⟩
    rw [List.append_assoc, ← List.take_add]

end Traversal

namespace Tree

variable {t : Tree}

/-- The visits of all nodes, by recursion over the tree. -/
def preorder (t : Tree) : List Visit := (Visit.root t).preorder

theorem walk_eq_preorder (t : Tree) : t.walk = t.preorder := by
  rw [walk, walkFrom_eq_preorder, List.flatMap_singleton]
  rfl

theorem iterate_round_start (t : Tree) (n : Nat) : (Traversal.round^[n] (.start t)).made = t.preorder.take n ∧
    ((Traversal.round^[n] (.start t)).stack = [] ↔ t.preorder.length ≤ n) := by
  have hrest : (Traversal.start t).rest = t.preorder := List.flatMap_singleton ..
  obtain ⟨hmade, hleft⟩ := Traversal.iterate_round (.start t) n
  rw [hrest] at hmade hleft
  refine ⟨hmade, ?_⟩
  rw [← Traversal.rest_eq_nil_iff, hleft, List.drop_eq_nil_iff]

/-! ## Order -/

/-- Where a visit is made, those of its children are made afterwards, in order. -/
theorem sublist_walk_of_mem {v : Visit} (h : v ∈ t.walk) : (v :: v.next).Sublist t.walk := by
  have hself : ∀ vs : List Visit, vs.Sublist (walkFrom vs) := by
    intro vs
    rw [walkFrom_eq_preorder]
    induction vs with
    | nil => exact List.Sublist.refl []
    | cons w ws ih =>
      rw [List.flatMap_cons, Visit.preorder_eq, List.cons_append]
      exact (ih.trans (List.sublist_append_right ..)).cons_cons w
  have hbelow : ∀ vs : List Visit, v ∈ walkFrom vs → (v :: v.next).Sublist (walkFrom vs) := by
    intro vs hv
    fun_induction walkFrom vs with
    | case1 => cases hv
    | case2 w pending ih =>
      rcases List.mem_cons.mp hv with rfl | hv
      · rw [walkFrom_append]
        exact ((hself v.next).trans (List.sublist_append_left ..)).cons_cons v
      · exact (ih hv).cons w
  exact hbelow _ h

/-! ## Depth -/

/-- The nodes that a path goes through before its end, from the root on. -/
def ancestors (t : Tree) : List Step → List Tree
  | [] => []
  | s :: p => t :: (match t.step? s with
    | some c => c.ancestors p
    | none => [])

/-- The parent of a visited node is the last of its ancestors, and its depth is the number of conditionals and blocks
among them. -/
theorem surroundings_of_mem_walk (ht : t.HasDistinctFields) {v : Visit} (h : v ∈ t.walk) :
    v.parent = (t.ancestors v.path).getLast? ∧
      v.depth = (t.ancestors v.path).countP fun u => u.isConditional || u.isBlock := by
  induction t using induction_children generalizing v with
  | step t ih =>
    rcases root_or_below_of_mem_walk h with rfl | ⟨hne, -⟩
    · exact ⟨rfl, rfl⟩
    · obtain ⟨c, hc, u, hu, rfl⟩ := mem_walk_below h hne
      obtain ⟨hparent, hdepth⟩ := ih c hc (ht.child hc) hu
      have hancestors : t.ancestors ((Visit.ofChild t c).under u).path = t :: c.2.ancestors u.path := by
        rw [Visit.under_path, Visit.ofChild, List.singleton_append, ancestors, step?_of_mem_children ht.self hc]
      have hnesting : t.nesting = if t.isConditional || t.isBlock then 1 else 0 := rfl
      rw [hancestors, List.getLast?_cons, List.countP_cons, ← hparent, ← hdepth, ← hnesting, Nat.add_comm]
      refine ⟨?_, rfl⟩
      cases hup : u.parent <;> simp [Visit.under, Visit.ofChild, hup]

/-- The walk of a tree makes the visits of the recursion in its order: the loop with the stack has made the first `n` of
them after `n` rounds, and ends with the last one. Each node is visited once, before its children, which follow in
order; its parent is the last node on the way to it, and its depth is the number of conditionals and blocks on the
way. -/
theorem walk_traverses (ht : t.HasDistinctFields) :
    t.walk = t.preorder ∧
      (∀ n, (Traversal.round^[n] (.start t)).made = t.preorder.take n ∧
        ((Traversal.round^[n] (.start t)).stack = [] ↔ t.preorder.length ≤ n)) ∧
      (t.walk.map Visit.path).Nodup ∧
      (∀ p u, t.Leads p u ↔ ∃ v ∈ t.walk, v.path = p ∧ v.node = u) ∧
      ∀ v ∈ t.walk, (v :: v.next).Sublist t.walk ∧ v.parent = (t.ancestors v.path).getLast? ∧
        v.depth = (t.ancestors v.path).countP fun u => u.isConditional || u.isBlock := by
  refine ⟨walk_eq_preorder t, iterate_round_start t, nodup_paths_walk ht, fun p u => ?_, fun v hv => ?_⟩
  · refine ⟨exists_mem_walk_of_leads, ?_⟩
    rintro ⟨v, hv, rfl, rfl⟩
    exact leads_of_mem_walk hv
  · exact ⟨sublist_walk_of_mem hv, surroundings_of_mem_walk ht hv⟩

/-- `if (s === 0) { [, a]; }` with a note about it that is a node, and a hole in the list. -/
def holeInBlock : Tree :=
  scriptOf [.node Tag.conditional [
    ("leadingComments", .list [.node "Line" [("value", .text "first")]]),
    ("test", (SelectorTest.equals (.text "s") (.int 0)).toTree),
    ("consequent", blockOf [.node "ExpressionStatement" [
      ("expression", .node Tag.array [("elements", .list [null, .node Tag.name [("name", .text "a")]])])]]),
    ("alternate", null)]]

/-- The note and the hole are passed over, and the loop ends after the nine nodes that there are. -/
theorem walk_traverses_holeInBlock :
    holeInBlock.HasDistinctFields ∧ holeInBlock.walk = holeInBlock.preorder ∧
      (Traversal.round^[8] (.start holeInBlock)).stack ≠ [] ∧ (Traversal.round^[9] (.start holeInBlock)).stack = [] ∧
      holeInBlock.preorder.map (fun v => (v.node.tag?.getD "", v.depth)) =
        [("Program", 0), ("IfStatement", 0), ("BinaryExpression", 1), ("Identifier", 1), ("Literal", 1),
          ("BlockStatement", 1), ("ExpressionStatement", 2), ("ArrayExpression", 2), ("Identifier", 2)] := by
  have hfields : holeInBlock.HasDistinctFields := by decide +kernel
  obtain ⟨hwalk, hloop, -⟩ := walk_traverses hfields
  have hlength : holeInBlock.preorder.length = 9 := by decide +kernel
  refine ⟨hfields, hwalk, ?_, (hloop 9).2.mpr (by omega), by decide +kernel⟩
  rw [ne_eq, (hloop 8).2, hlength]
  decide

end Tree
end Deflatten
