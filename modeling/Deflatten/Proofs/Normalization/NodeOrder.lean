import Deflatten.Proofs.Normalization.Correspondence
/-!
# What is read off the nodes

Both passes keep the nodes of a tree in document order, each as the pass makes it. New are the members that are added to
chains, with their tests, and the literals that are put in the place of others. So what is read off the nodes one by one is
the same before and after, if it can be read off each node as before and nothing can be read off what is new
(`ElseGuard.filterMap_nodes_guarded`, `RangeTest.filterMap_nodes_lower`).
-/

namespace Deflatten

namespace Tree

/-- Reads off a node whether it has a property. -/
def mark (p : Tree → Bool) (u : Tree) : Option Unit := if p u then some () else none

theorem mark_eq_none {p : Tree → Bool} {u : Tree} (h : p u = false) : mark p u = none := by
  rw [mark, h, if_neg Bool.false_ne_true]

theorem length_filterMap_mark (p : Tree → Bool) (us : List Tree) : (us.filterMap (mark p)).length = us.countP p := by
  rw [List.length_filterMap_eq_countP]
  refine List.countP_congr fun u _ => ?_
  rw [mark]
  cases p u <;> simp

end Tree

variable {α : Type} {f g : Tree → Option α} {t : Tree}

namespace ElseGuard

open Deflatten.Tree

variable {own : Option SelectorTest}

theorem isEquality_of_guardTest? {test : SelectorTest} (h : guardTest? t = some test) : test.isEquality := by
  obtain ⟨-, houtcome⟩ := guardTest?_eq_some h
  obtain ⟨_, -, -, _, _, -, rfl⟩ := nextSelector_eq_some_iff.mp (outcome_eq_guarded_iff.mp houtcome).2
  rfl

/-- Nothing is read off a member that is added for an equality test, and nothing off the test. -/
structure ReadsNoGuard (f : Tree → Option α) : Prop where
  member (test : SelectorTest) (block : Tree) : f (ifThen test.toTree block .null) = none
  test (test : SelectorTest) : test.isEquality → f test.toTree = none
  name (name : Scalar) : f (.node Tag.name [("name", .scalar name)]) = none
  number (n : Number) : f (.number n) = none

theorem filterMap_nodes_guardBlock (hf : ReadsNoGuard f) (hown : ∀ test, own = some test → test.isEquality)
    (hnode : t.isNode) : (guardBlock own t).nodes.filterMap f = t.nodes.filterMap f := by
  cases own with
  | none => rfl
  | some test =>
    rw [guardBlock]
    split
    · have htest : test.toTree.nodes.filterMap f = [] := by
        rw [nodes_toTree, List.filterMap_cons_none (hf.test test (hown test rfl)), List.filterMap_cons_none (hf.name _),
          List.filterMap_cons_none (hf.number _), List.filterMap_nil]
      rw [nodes_eq, List.filterMap_cons_none (hf.member test t), children_ifThen rfl hnode, List.flatMap_cons,
        List.flatMap_cons, List.flatMap_nil, List.append_nil, List.filterMap_append, htest, List.nil_append]
    · rfl

/-- Guarding changes nothing that is read off the nodes in order. -/
theorem filterMap_nodes_guarded (ht : t.HasDistinctFields) (hf : ReadsNoGuard f)
    (hown : ∀ test, own = some test → test.isEquality) (hkeep : ∀ own, ∀ u ∈ t.nodes, f (guarded own u) = g u) :
    (guarded own t).nodes.filterMap f = t.nodes.filterMap g := by
  induction t using induction_children generalizing own with
  | step t ih =>
    have hchild : ∀ c ∈ t.children, (guardedChild own t c.1 c.2).nodes.filterMap f = c.2.nodes.filterMap g := by
      intro c hc
      have hkeep' : ∀ own, ∀ u ∈ c.2.nodes, f (guarded own u) = g u := fun own u hu =>
        hkeep own u (mem_nodes_of_child hc hu)
      rw [guardedChild]
      split
      · rw [filterMap_nodes_guardBlock hf hown (by rw [isNode_guarded]; exact isNode_of_mem_children hc)]
        exact ih c hc (ht.child hc) hown hkeep'
      · rename_i hs
        refine ih c hc (ht.child hc) (fun test htest => ?_) hkeep'
        rw [childGuard, if_neg hs] at htest
        split at htest
        · cases htest
        · exact isEquality_of_guardTest? htest
    rw [nodes_eq, nodes_eq t, List.filterMap_cons, List.filterMap_cons, hkeep own t t.mem_nodes_self,
      children_guarded own ht.self, List.flatMap_map, List.filterMap_flatMap, List.filterMap_flatMap,
      List.flatMap_congr hchild]

theorem filterMap_nodes_run (ht : t.HasDistinctFields) (hf : ReadsNoGuard f)
    (hkeep : ∀ own, ∀ u ∈ t.nodes, f (guarded own u) = g u) : (run t).1.nodes.filterMap f = t.nodes.filterMap g := by
  rw [run_fst_eq_guarded ht]
  exact filterMap_nodes_guarded ht hf (fun _ => isEquality_of_guardTest?) hkeep

end ElseGuard

namespace RangeTest

open Deflatten.Tree

/-- Lowering changes nothing that is read off the nodes in order, if it is read off no literal. -/
theorem filterMap_nodes_lower (ht : t.HasDistinctFields) (hl : t.HasPlainLiterals) (hnumber : ∀ n, f (.number n) = none)
    (hliteral : ∀ u : Tree, u.hasTag Tag.literal → g u = none) (hkeep : ∀ u ∈ t.nodes, f (lower u) = g u) :
    (lower t).nodes.filterMap f = t.nodes.filterMap g := by
  induction t using induction_children with
  | step t ih =>
    have hchild : ∀ c ∈ t.children, (lowerChild (lowered? t) c.1 c.2).nodes.filterMap f = c.2.nodes.filterMap g := by
      intro c hc
      rcases lowerChild_eq ht.self hc with hsame | ⟨hlit, n, hnew⟩
      · rw [hsame]
        exact ih c hc (ht.child hc) (hl.child hc) fun u hu => hkeep u (mem_nodes_of_child hc hu)
      · rw [hnew, nodes_of_no_children (children_number n), List.filterMap_cons_none (hnumber n),
          nodes_of_no_children (hl.child hc c.2 (mem_nodes_self _) hlit), List.filterMap_cons_none (hliteral _ hlit),
          List.filterMap_nil, List.filterMap_nil]
    rw [nodes_eq, nodes_eq t, List.filterMap_cons, List.filterMap_cons, hkeep t t.mem_nodes_self,
      children_lower ht.self, List.flatMap_map, List.filterMap_flatMap, List.filterMap_flatMap,
      List.flatMap_congr hchild]

end RangeTest
end Deflatten
