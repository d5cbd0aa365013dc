import Deflatten.Proofs.Normalization.NodeOrder
import Deflatten.Proofs.Normalization.Selectors
/-!
# Where tests come from

Every recognised test of a normalized tree was there before, is lowered from a range test, or is the test for the next
value of a chain (`Normalized.derives_of_mem_nodes`). Whatever the numbers are, normalization makes no test of a variable
that the tree does not test (`Normalized.exists_name_of_mem_nodes`).
-/

namespace Deflatten

open Deflatten.Tree

variable {t : Tree} {test : SelectorTest}

/-- The recognised tests along a chain stand in the tree. -/
theorem Tree.exists_mem_nodes_of_mem_chainTests (h : test ∈ t.chainTests) :
    ∃ u ∈ t.nodes, SelectorTest.ofTree? u = some test := by
  obtain ⟨member, hmember, htest⟩ := List.mem_filterMap.mp h
  have hnode := isNode_of_hasTag (SelectorTest.ofTree?_eq_some htest).1
  have hown := isNode_of_isConditional (isConditional_of_mem_chain hmember)
  exact ⟨_, nodes_subset (mem_nodes_of_mem_chain hmember) (get_mem_nodes hown rfl hnode), htest⟩

namespace SelectorTest

theorem ofTree?_of_not_binary (h : t.hasTag Tag.binary = false) : ofTree? t = none := by
  rw [ofTree?, h, if_neg Bool.false_ne_true]

/-- Of a written test only the test itself is recognised. -/
theorem eq_toTree_of_mem_nodes {w : Tree} (hw : w ∈ test.toTree.nodes) (h : (ofTree? w).isSome) : w = test.toTree := by
  rw [nodes_toTree] at hw
  simp only [List.mem_cons, List.not_mem_nil, or_false] at hw
  rcases hw with rfl | rfl | rfl
  · rfl
  · rw [ofTree?_of_not_binary rfl] at h
    cases h
  · rw [ofTree?_of_not_binary rfl] at h
    cases h

/-- What is read where a test is written is a test of the same variable. -/
theorem name_of_ofTree?_toTree {read : SelectorTest} (h : ofTree? test.toTree = some read) : read.name = test.name := by
  have hname := (ofTree?_eq_some h).2.2.1
  have hleft : test.toTree.get "left" = .node Tag.name [("name", .scalar test.name)] := by
    simp [toTree]
  have hscalar : (Tree.node Tag.name [("name", .scalar test.name)]).get "name" = .scalar test.name := by simp
  rw [hleft, name?_eq, hscalar, scalar?, Option.filter_eq_some_iff] at hname
  exact (Option.some.inj hname.1).symm

end SelectorTest

namespace ElseGuard

/-- Among the equality tests of a chain for a variable that it tests there is a greatest value, and the next is above. -/
theorem exists_greatest {name : Scalar} {n : Int} (h : n ∈ equalityValues t name) :
    ∃ m ∈ equalityValues t name, (∀ k ∈ equalityValues t name, k ≤ m) ∧ nextValue t name = m + 1 := by
  cases hmax : (equalityValues t name).max? with
  | none =>
    rw [List.max?_eq_none_iff.mp hmax] at h
    cases h
  | some m =>
    obtain ⟨hmem, hle⟩ := List.max?_eq_some_iff.mp hmax
    exact ⟨m, hmem, hle, by rw [nextValue, hmax, Option.getD_some]⟩

/-- The test that a chain gets is of the variable for which its head is an equality test. -/
theorem exists_name_of_guardTest? (h : guardTest? t = some test) :
    ∃ first ∈ t.chainTests, first.isEquality ∧ test.name = first.name := by
  obtain ⟨hcond, houtcome⟩ := guardTest?_eq_some h
  obtain ⟨first, hfirst, hequality, _, _, -, rfl⟩ :=
    nextSelector_eq_some_iff.mp (outcome_eq_guarded_iff.mp houtcome).2
  exact ⟨first, mem_chainTests_of_head hcond hfirst, hequality, rfl⟩

/-- A test that is recognised after the guards was recognised before, or is read where a head has got one. -/
theorem ofTree?_of_mem_nodes_guarded (ht : t.HasDistinctFields) {w : Tree} (hw : w ∈ (guarded (guardTest? t) t).nodes)
    (htest : SelectorTest.ofTree? w = some test) :
    (∃ u ∈ t.nodes, SelectorTest.ofTree? u = some test) ∨
      ∃ v ∈ DepthIndex.heads t, ∃ new, guardTest? v.node = some new ∧ SelectorTest.ofTree? new.toTree = some test := by
  rcases mem_nodes_guarded ht hw with ⟨own, u, hu, rfl⟩ | ⟨new, hget, hcomes⟩
  · rw [guarded, Plan.ofTree?_apply] at htest
    exact .inl ⟨u, hu, htest⟩
  · have hhead : ∃ u ∈ t.headNodes false, guardTest? u = some new := by
      rcases hget with hown | ⟨u, hu, hguard⟩
      · exact ⟨t, mem_headNodes_self (guardTest?_eq_some hown).1, hown⟩
      · exact ⟨u, headNodes_true_subset hu, hguard⟩
    rw [← heads_eq_headNodes] at hhead
    obtain ⟨u, hu, hguard⟩ := hhead
    obtain ⟨v, hv, rfl⟩ := List.mem_map.mp hu
    have hmem : w ∈ new.toTree.nodes := by
      rcases hcomes with ⟨block, rfl⟩ | hmem
      · rw [SelectorTest.ofTree?_of_not_binary rfl] at htest
        cases htest
      · exact hmem
    rw [SelectorTest.eq_toTree_of_mem_nodes hmem (Option.isSome_of_eq_some htest)] at htest
    exact .inr ⟨v, hv, new, hguard, htest⟩

end ElseGuard

namespace Normalized

open ElseGuard

variable {lowerRanges : Bool}

/-- What a test of a normalized tree can be: one of the tree, the equality test for `N - 1` where the tree has a range test
`v < N`, or one for the value above the greatest for which a chain, whose head is an equality test, tests the variable of
its head by equality. -/
inductive Derives (t : Tree) (lowerRanges : Bool) : SelectorTest → Prop
  | kept {u : Tree} {test : SelectorTest} (hmem : u ∈ t.nodes) (htest : SelectorTest.ofTree? u = some test) :
      Derives t lowerRanges test
  | lowered {u : Tree} {name : Scalar} {n : Int} (hlower : lowerRanges) (hmem : u ∈ t.nodes)
      (htest : SelectorTest.ofTree? u = some ⟨name, SelectorTest.lessThan, .int n⟩) (hpos : 1 ≤ n) :
      Derives t lowerRanges (.equals name (.int (n - 1)))
  | next {v : Visit} {first : SelectorTest} {m : Int} (hhead : v ∈ DepthIndex.heads t)
      (hblock : v.node.finalElse.isBlock) (hfirst : SelectorTest.ofConditional? v.node = some first)
      (hequality : first.isEquality) (hmem : m ∈ equalityValues v.node first.name)
      (hgreatest : ∀ k ∈ equalityValues v.node first.name, k ≤ m) :
      Derives t lowerRanges (.equals first.name (.int (m + 1)))

/-- What is read where a head has got a test is an equality test for the value above the greatest. -/
theorem derives_of_guardTest? (hint : t.HasIntegerLiterals) {v : Visit} (hv : v ∈ DepthIndex.heads t)
    {new : SelectorTest} (h : guardTest? v.node = some new) (hread : SelectorTest.ofTree? new.toTree = some test) :
    test.isEquality ∧ Derives t lowerRanges test := by
  have hhead : v.node.HasIntegerTests :=
    (hint.of_mem_nodes (List.mem_map_of_mem (DepthIndex.mem_heads_iff.mp hv).1)).hasIntegerTests
  rw [ofTree?_guardTest? hhead h] at hread
  obtain rfl := Option.some.inj hread
  refine ⟨isEquality_of_guardTest? h, ?_⟩
  rw [guardTest?_eq hhead, Option.map_eq_some_iff] at h
  obtain ⟨name, hname, rfl⟩ := h
  obtain ⟨hcond, hblock, first, hfirst, rfl, htests⟩ := guardedName?_eq_some hname
  have hmem := mem_chainTests_of_head hcond hfirst
  obtain ⟨n, hn⟩ := hhead first hmem
  -- The head itself is one of the equality tests of its variable.
  have hvalue : n ∈ equalityValues v.node first.name :=
    List.mem_filterMap.mpr ⟨first, hmem, by rw [if_pos htests, hn]; rfl⟩
  obtain ⟨m, hm, hgreatest, hnext⟩ := exists_greatest hvalue
  rw [hnext]
  exact .next hv hblock hfirst (Bool.and_eq_true_iff.mp htests).1 hm hgreatest

/-- A test that is recognised in a normalized tree is one after the guards, or what such a one is lowered to. -/
theorem ofTree?_of_mem_nodes (ht : t.HasDistinctFields) {w : Tree} (hw : w ∈ (ofTree t lowerRanges).tree.nodes)
    (htest : SelectorTest.ofTree? w = some test) :
    ∃ u ∈ (guarded (guardTest? t) t).nodes, ∃ before, SelectorTest.ofTree? u = some before ∧
      (test = before ∨ lowerRanges ∧ before.operator = SelectorTest.lessThan ∧ before.value.pred.isNegative = false ∧
        test = .equals before.name before.value.pred.integral) := by
  rw [tree_ofTree ht, head] at hw
  cases lowerRanges with
  | false => exact ⟨w, hw, test, htest, .inl rfl⟩
  | true =>
    rcases RangeTest.mem_nodes_lower (hasDistinctFields_guarded ht) hw with ⟨u, hu, rfl⟩ | ⟨n, rfl⟩
    · rw [RangeTest.ofTree?_lower] at htest
      cases hlowered : RangeTest.lowered? u with
      | none =>
        rw [hlowered] at htest
        exact ⟨u, hu, test, htest, .inl rfl⟩
      | some new =>
        rw [hlowered] at htest
        obtain ⟨range, hrange, hop, hnegative, rfl⟩ := RangeTest.lowered?_eq_some_iff.mp hlowered
        exact ⟨u, hu, range, hrange, .inr ⟨rfl, hop, hnegative, (Option.some.inj htest).symm⟩⟩
    · rw [SelectorTest.ofTree?_of_not_binary rfl] at htest
      cases htest

/-- Every test that is recognised in a normalized tree comes from one of the tree. -/
theorem derives_of_mem_nodes (ht : t.HasDistinctFields) (hint : t.HasIntegerLiterals) {w : Tree}
    (hw : w ∈ (ofTree t lowerRanges).tree.nodes) (htest : SelectorTest.ofTree? w = some test) :
    Derives t lowerRanges test := by
  obtain ⟨u, hu, before, hbefore, hsame⟩ := ofTree?_of_mem_nodes ht hw htest
  rcases ofTree?_of_mem_nodes_guarded ht hu hbefore with ⟨u', hu', hkept⟩ | ⟨v, hv, new, hguard, hread⟩
  · rcases hsame with rfl | ⟨hlower, hop, hnegative, rfl⟩
    · exact .kept hu' hkept
    · obtain ⟨name, operator, value⟩ := before
      obtain rfl : operator = SelectorTest.lessThan := hop
      obtain ⟨n, rfl⟩ : ∃ n, value = .int n := (hint.of_mem_nodes hu').ofTree? hkept
      rw [Number.pred_int, SelectorTest.isNegative_int, decide_eq_false_iff_not] at hnegative
      exact .lowered hlower hu' hkept (by omega)
  · obtain ⟨hequality, hderives⟩ := derives_of_guardTest? hint hv hguard hread
    rcases hsame with rfl | ⟨-, hop, -⟩
    · exact hderives
    · -- The tests that heads get are equality tests, which are not lowered.
      rw [SelectorTest.isEquality, hop] at hequality
      cases hequality

/-- A test of a normalized tree is of a variable that some recognised test of the tree is of; that one is an equality test
if this one is, unless range tests are lowered. -/
theorem exists_name_of_mem_nodes (ht : t.HasDistinctFields) {w : Tree} (hw : w ∈ (ofTree t lowerRanges).tree.nodes)
    (htest : SelectorTest.ofTree? w = some test) :
    ∃ u ∈ t.nodes, ∃ before, SelectorTest.ofTree? u = some before ∧ before.name = test.name ∧
      (test.isEquality → before.isEquality ∨ lowerRanges) := by
  obtain ⟨u, hu, before, hbefore, hsame⟩ := ofTree?_of_mem_nodes ht hw htest
  have hname : before.name = test.name ∧ (test.isEquality → before.isEquality ∨ lowerRanges) := by
    rcases hsame with rfl | ⟨hlower, -, -, rfl⟩
    · exact ⟨rfl, .inl⟩
    · exact ⟨rfl, fun _ => .inr hlower⟩
  rcases ofTree?_of_mem_nodes_guarded ht hu hbefore with ⟨u', hu', hkept⟩ | ⟨v, hv, new, hguard, hread⟩
  · exact ⟨u', hu', before, hkept, hname⟩
  · obtain ⟨first, hfirst, hequality, hnew⟩ := exists_name_of_guardTest? hguard
    obtain ⟨u', hu', hold⟩ := exists_mem_nodes_of_mem_chainTests hfirst
    have hmem : v.node ∈ t.nodes := List.mem_map_of_mem (DepthIndex.mem_heads_iff.mp hv).1
    refine ⟨u', nodes_subset hmem hu', first, hold, ?_, fun _ => .inl hequality⟩
    rw [← hname.1, SelectorTest.name_of_ofTree?_toTree hread, hnew]

/-- Where a tree has no equality test of a variable, and no range test of it that could be lowered, there is no equality
test of it after normalization either. -/
theorem not_tests_of_mem_nodes {name : String} (ht : t.HasDistinctFields)
    (h : ∀ u ∈ t.nodes, ∀ test, SelectorTest.ofTree? u = some test →
      test.tests (.text name) = false ∧ (lowerRanges → test.name ≠ .text name)) {w : Tree}
    (hw : w ∈ (ofTree t lowerRanges).tree.nodes) (htest : SelectorTest.ofTree? w = some test) :
    test.tests (.text name) = false := by
  obtain ⟨u, hu, before, hbefore, hname, hequality⟩ := exists_name_of_mem_nodes ht hw htest
  obtain ⟨hnot, hrange⟩ := h u hu before hbefore
  rw [← Bool.not_eq_true]
  intro htests
  obtain ⟨hown, hsame⟩ := Bool.and_eq_true_iff.mp htests
  rcases hequality hown with hbefore | hlower
  · rw [SelectorTest.tests, hbefore, hname, hsame] at hnot
    cases hnot
  · exact hrange hlower (hname.trans (Scalar.eq_text_of_same hsame))

end Normalized
end Deflatten
