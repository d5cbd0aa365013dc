import Deflatten.Proofs.Normalization.Halting
/-!
# The passes in either order

Guarding reads the tests of whole chains, and lowering rewrites tests. The one test that a chain may get is the same
before and after lowering unless it hangs on a range test that is lowered (`ElseGuard.guardTest?_lower`). Where no chain
hangs on one, the passes commute: lowering first gives the tree and the counts of a normalization
(`Normalized.ofTree_eq_guard_lower`).
-/

namespace Deflatten

/-- Whether a test is a range test `v < N` with `N - 1` not below zero. -/
def SelectorTest.isLowerable (test : SelectorTest) : Bool := test.operator == lessThan && !test.value.pred.isNegative

namespace SelectorTest

variable {test : SelectorTest}

theorem lowered_of_not_isLowerable (h : test.isLowerable = false) : test.lowered = test := by
  rw [isLowerable] at h
  rw [lowered, h, if_neg Bool.false_ne_true]

theorem lowered_of_isLowerable (h : test.isLowerable) : test.lowered = .equals test.name test.value.pred.integral := by
  rw [isLowerable] at h
  rw [lowered, if_pos h]

end SelectorTest

namespace ElseGuard

open Deflatten.Tree

variable {t : Tree}

/-- Whether the test that a chain may get hangs on a range test that is lowered: the head is such a test, or the head
tests a variable by equality and another member catches it by such a test. -/
def hangsOnRange (head : Tree) : Bool :=
  head.finalElse.isBlock && (SelectorTest.ofConditional? head).any fun first =>
    first.isLowerable ||
      first.isEquality && head.chainTests.any fun range => range.isLowerable && range.name.same first.name

/-- The values for which a chain tests a variable stay if no range test of the variable is lowered. -/
theorem usedValues_lower {name : Scalar}
    (h : ∀ range ∈ t.chainTests, range.isLowerable → range.name.same name = false) :
    usedValues (RangeTest.lower t) name = usedValues t name := by
  rw [usedValues, ← chainTests, RangeTest.chainTests_lower, List.filterMap_map, usedValues, ← chainTests]
  refine List.filterMap_congr fun test htest => ?_
  rw [Function.comp_apply]
  cases hlow : test.isLowerable with
  | false => rw [SelectorTest.lowered_of_not_isLowerable hlow]
  | true =>
    -- The range test is not one of the variable, so neither is what it becomes.
    have hother : test.name.same name = false := h test htest hlow
    rw [SelectorTest.lowered_of_isLowerable hlow]
    simp [SelectorTest.tests, SelectorTest.equals, hother]

/-- A chain that hangs on no range test gets the same test after lowering. -/
theorem guardTest?_lower (h : hangsOnRange t = false) : guardTest? (RangeTest.lower t) = guardTest? t := by
  rw [guardTest?, guardTest?, RangeTest.isConditional_lower]
  cases hcond : t.isConditional with
  | false => rfl
  | true =>
    rw [if_pos rfl, if_pos rfl, outcome, outcome, ← finalElse, ← finalElse, RangeTest.finalElse_lower hcond,
      RangeTest.isBlock_lower]
    cases hblock : t.finalElse.isBlock with
    | false => rfl
    | true =>
      have hnext : nextSelector (RangeTest.lower t) = nextSelector t := by
        rw [hangsOnRange, hblock, Bool.true_and] at h
        rw [nextSelector, nextSelector, RangeTest.ofConditional?_lower hcond]
        cases hfirst : SelectorTest.ofConditional? t with
        | none => rfl
        | some first =>
          rw [hfirst, Option.any_some, Bool.or_eq_false_iff] at h
          obtain ⟨hhead, hmembers⟩ := h
          rw [Option.map_some, SelectorTest.lowered_of_not_isLowerable hhead, Option.bind_eq_bind, Option.bind_some,
            Option.bind_eq_bind, Option.bind_some]
          cases heq : first.isEquality with
          | false => rfl
          | true =>
            rw [heq, Bool.true_and, List.any_eq_false] at hmembers
            have hused : usedValues (RangeTest.lower t) first.name = usedValues t first.name := by
              refine usedValues_lower fun range hrange hlow => ?_
              have hnot := hmembers range hrange
              rw [hlow, Bool.true_and, Bool.not_eq_true] at hnot
              exact hnot
            rw [hused]
      rw [hnext]

end ElseGuard

namespace RangeTest

open Deflatten.Tree ElseGuard

variable {t : Tree} {own : Option SelectorTest} {f g : Step → Tree → Tree}

/-! ## Lowering what a change of the children has made -/

theorem lower_mapSlot {name : String} {value : Tree} (hf : ∀ s c, c.isNode → (f s c).isNode)
    (h : ∀ c ∈ slotChildren name value, lower (f c.1 c.2) = g c.1 (lower c.2)) :
    lower (mapSlot f name value) = mapSlot g name (lower value) := by
  rw [lower_eq_mapSlot name, mapSlot_mapSlot hf, lower_eq_mapSlot name value,
    mapSlot_mapSlot fun _ c hc => by simpa using hc]
  exact mapSlot_congr h

/-- The fields of a node are lowered one by one, whether its children have been changed before or are afterwards. The
right operand of a lowered comparison is a new literal, which the change must leave alone. -/
theorem lowerFields_mapFields {fs : List (String × Tree)} (hf : ∀ s c, c.isNode → (f s c).isNode)
    (hnumber : own.isSome → ∀ n, g ⟨"right", none⟩ (.number n) = .number n)
    (h : ∀ c ∈ fieldChildren fs, lower (f c.1 c.2) = g c.1 (lower c.2)) :
    lowerFields own (mapFields f fs) = mapFields g (lowerFields own fs) := by
  induction fs with
  | nil => rfl
  | cons field fs ih =>
    obtain ⟨name, value⟩ := field
    rw [fieldChildren] at h
    rw [mapFields, lowerFields, lowerFields, mapFields, ih fun c hc => h c (List.mem_append_right _ hc)]
    congr 2
    cases hn : isNote name with
    | true =>
      rw [if_pos rfl, if_pos rfl]
    | false =>
      rw [hn, if_neg Bool.false_ne_true] at h
      rw [if_neg Bool.false_ne_true, if_neg Bool.false_ne_true]
      have hvalue : lower (mapSlot f name value) = mapSlot g name (lower value) :=
        lower_mapSlot hf fun c hc => h c (List.mem_append_left _ hc)
      cases own with
      | none => rw [fieldValue, hn, if_neg Bool.false_ne_true, fieldValue, hn, if_neg Bool.false_ne_true, hvalue]
      | some test =>
        rw [fieldValue, fieldValue, hn]
        split
        · rfl
        · split
          · rename_i hright
            rw [beq_iff_eq] at hright
            rw [hright, mapSlot_of_isNode rfl, hnumber rfl]
          · rw [if_neg Bool.false_ne_true, if_neg Bool.false_ne_true, hvalue]

theorem lower_guardBlock (hown : ∀ test, own = some test → test.isEquality) (t : Tree) :
    lower (guardBlock own t) = guardBlock own (lower t) := by
  cases own with
  | none => rfl
  | some test =>
    rw [guardBlock, guardBlock, isBlock_lower]
    split
    · -- The test that was added is no range test, nor is any part of it.
      have htest : lower test.toTree = test.toTree := by
        refine lower_of_isSettled rfl fun u hu => ?_
        rw [nodes_toTree] at hu
        simp only [List.mem_cons, List.not_mem_nil, or_false] at hu
        rcases hu with rfl | rfl | rfl
        · exact isLowerable_toTree (hown test rfl)
        · exact isLowerable_of_not_binary rfl
        · exact isLowerable_of_not_binary rfl
      have hnone : lowered? (ifThen test.toTree t .null) = none := lowered?_of_not_binary rfl
      rw [lower_eq_mapChildren rfl hnone]
      simp only [ifThen, mapChildren, mapFields, isNote]
      rw [← lower_eq_mapSlot, ← lower_eq_mapSlot, htest]
      rfl
    · rfl

theorem guarded_number (own : Option SelectorTest) (n : Number) : guarded own (.number n) = .number n := by
  have hnodes : (Tree.number n).nodes = [.number n] := nodes_of_no_children (children_number n)
  refine guarded_eq_self ?_ ?_
  · intro u hu
    rw [hnodes, List.mem_singleton] at hu
    rw [hu]
    simp [number, fields]
  · intro u hu
    rw [hnodes, List.mem_singleton] at hu
    rw [hu]
    rfl

theorem guardTest?_lower_of_heads (h : ∀ u ∈ t.headNodes false, guardTest? (lower u) = guardTest? u) :
    guardTest? (lower t) = guardTest? t := by
  cases hcond : t.isConditional with
  | true => exact h t (mem_headNodes_self hcond)
  | false =>
    rw [guardTest?, guardTest?, isConditional_lower, hcond, if_neg Bool.false_ne_true, if_neg Bool.false_ne_true]

/-! ## Guarding and lowering -/

theorem continues_lower (t : Tree) (s : Step) : continues (lower t) s = continues t s := by
  rw [continues, continues, isConditional_lower]

/-- The guard that the chain below a child gets is an equality test. -/
theorem isEquality_of_childGuard (hown : ∀ test, own = some test → test.isEquality) {s : Step} {c : Tree}
    {test : SelectorTest} (h : childGuard own t s c = some test) : test.isEquality := by
  rw [childGuard] at h
  split at h
  · exact hown test h
  · split at h
    · cases h
    · exact isEquality_of_guardTest? h

/-- The guard that the chain below a child gets is the same after lowering, if the heads below the child get the same. -/
theorem childGuard_lower (own : Option SelectorTest) {s : Step} {c : Tree}
    (h : ∀ u ∈ c.headNodes (s.field == "alternate" && t.isConditional), guardTest? (lower u) = guardTest? u) :
    childGuard own (lower t) s (lower c) = childGuard own t s c := by
  rw [childGuard, childGuard, continues_lower, isConditional_lower]
  split
  · rfl
  · cases hfield : t.isConditional && s.field == "alternate" with
    | true => rfl
    | false =>
      rw [Bool.and_comm] at hfield
      rw [hfield] at h
      exact guardTest?_lower_of_heads h

/-- Guarding and lowering commute in a tree each head of which gets the same test after lowering. -/
theorem lower_guarded (ht : t.HasDistinctFields) (hown : ∀ test, own = some test → test.isEquality)
    (hheads : ∀ u ∈ t.headNodes true, guardTest? (lower u) = guardTest? u) :
    lower (guarded own t) = guarded own (lower t) := by
  induction t using induction_children generalizing own with
  | step t ih =>
    have hchild : ∀ c ∈ t.children, lower (guardedChild own t c.1 c.2) = guardedChild own (lower t) c.1 (lower c.2) := by
      intro c hc
      have hbelow : ∀ u ∈ c.2.headNodes (c.1.field == "alternate" && t.isConditional),
          guardTest? (lower u) = guardTest? u := fun u hu => hheads u (mem_headNodes_of_child hc hu)
      have hguarded : lower (guarded (childGuard own t c.1 c.2) c.2) = guarded (childGuard own t c.1 c.2) (lower c.2) :=
        ih c hc (ht.child hc) (fun _ => isEquality_of_childGuard hown) fun u hu =>
          hbelow u (headNodes_true_subset hu)
      rw [guardedChild, guardedChild, continues_lower, childGuard_lower own hbelow]
      split
      · rename_i hs
        rw [childGuard, if_pos hs] at hguarded
        rw [lower_guardBlock hown, hguarded]
      · exact hguarded
    cases t with
    | node tag fs =>
      have hlowered : lowered? (guarded own (.node tag fs)) = lowered? (.node tag fs) := by
        rw [lowered?_eq, lowered?_eq, guarded, Plan.ofTree?_apply]
      have hfs : ((lower (.node tag fs)).fields.map Prod.fst).Nodup := (hasDistinctFields_lower ht).self
      have hnumber : ∀ n, guardedChild own (lower (.node tag fs)) ⟨"right", none⟩ (.number n) = .number n := by
        intro n
        have hs : continues (lower (.node tag fs)) ⟨"right", none⟩ = false := by simp [continues, alternateStep]
        rw [guardedChild, hs, if_neg Bool.false_ne_true, guarded_number]
      have hfields : lowerFields (lowered? (.node tag fs)) (mapFields (guardedChild own (.node tag fs)) fs) =
          mapFields (guardedChild own (lower (.node tag fs))) (lowerFields (lowered? (.node tag fs)) fs) :=
        lowerFields_mapFields isNode_guardedChild (fun _ => hnumber) hchild
      rw [guarded_eq own hfs]
      rw [guarded_eq own ht.self] at hlowered ⊢
      simp only [mapChildren, lower] at hlowered hfields ⊢
      rw [hlowered, hfields]
    | _ => rfl

end RangeTest

namespace Normalized

open Deflatten.Tree ElseGuard

variable {t : Tree}

/-- Where no chain that ends in a block hangs on a range test, lowering the range tests first and then guarding gives the
same tree and makes as many rewrites of each kind, and the passes run to their end in both orders or in neither. -/
theorem ofTree_eq_guard_lower (h : t.IsScriptTree) (hheads : ∀ v ∈ DepthIndex.heads t, hangsOnRange v.node = false) :
    (ElseGuard.run (RangeTest.lower t)).1 = (ofTree t true).tree ∧
      guardedCount (ElseGuard.run (RangeTest.lower t)).2 = (ofTree t true).metrics.guardedElses ∧
      RangeTest.count t = (ofTree t true).metrics.loweredRanges ∧
      (RangeTest.halted? t = none ∧ ElseGuard.halted? (RangeTest.lower t) = none ↔ halted? t true = none) := by
  have hsame : ∀ u ∈ t.headNodes false, guardTest? (RangeTest.lower u) = guardTest? u := by
    intro u hu
    rw [← heads_eq_headNodes] at hu
    obtain ⟨v, hv, rfl⟩ := List.mem_map.mp hu
    exact guardTest?_lower (hheads v hv)
  have hlow : (RangeTest.lower t).HasDistinctFields := RangeTest.hasDistinctFields_lower h.fields
  have hlowHeads : (RangeTest.lower t).headNodes false = (t.headNodes false).map RangeTest.lower :=
    RangeTest.headNodes_lower h.fields h.literals false
  refine ⟨?_, ?_, ?_, ?_⟩
  · rw [run_fst_eq_guarded hlow, RangeTest.guardTest?_lower_of_heads hsame, tree_ofTree h.fields, head, if_pos rfl]
    refine (RangeTest.lower_guarded h.fields (fun _ => isEquality_of_guardTest?) fun u hu => ?_).symm
    exact hsame u (headNodes_true_subset hu)
  · have hguards : guardedCount (ElseGuard.run (RangeTest.lower t)).2 = guardedCount (ElseGuard.run t).2 := by
      rw [guardedCount_run hlow, guardedCount_run h.fields, hlowHeads, List.countP_map]
      exact List.countP_congr fun u hu => by rw [Function.comp_apply, hsame u hu]
    rw [hguards]
    simp [ofTree, metrics, ElseGuard.metrics]
  · have hrun := isScriptTree_run h
    have hranges : RangeTest.count (ElseGuard.run t).1 = RangeTest.count t := by
      rw [RangeTest.count_eq hrun.isNode hrun.fields hrun.literals, countP_isLowerable_run h.fields,
        RangeTest.count_eq h.isNode h.fields h.literals]
    rw [← hranges]
    simp [ofTree, metrics, ElseGuard.metrics]
  · have hguards : ElseGuard.halted? (RangeTest.lower t) = none ↔ ElseGuard.halted? t = none := by
      rw [ElseGuard.halted?_eq_none_iff hlow, ElseGuard.halted?_eq_none_iff h.fields, hlowHeads, List.forall_mem_map]
      exact forall₂_congr fun u hu => by rw [hsame u hu]
    rw [hguards, halted?_eq_none_iff h.fields, RangeTest.halted?_eq_none_iff, ElseGuard.halted?_eq_none_iff h.fields,
      and_comm]
    simp

/-- The script `if (s === 0) { a(); } else if (x < 3) { b(); } else { c(); } if (y < 2) { d(); }`. -/
def mixedRanges : Tree :=
  scriptOf [
    .ifThen (SelectorTest.equals (.text "s") (.int 0)).toTree (blockOf [callOf "a"])
      (.ifThen (SelectorTest.toTree ⟨.text "x", SelectorTest.lessThan, .int 3⟩) (blockOf [callOf "b"])
        (blockOf [callOf "c"])),
    .ifThen (SelectorTest.toTree ⟨.text "y", SelectorTest.lessThan, .int 2⟩) (blockOf [callOf "d"]) .null]

theorem mixedRanges_commutes :
    mixedRanges.IsScriptTree ∧ (∀ v ∈ DepthIndex.heads mixedRanges, hangsOnRange v.node = false) ∧
      (ElseGuard.run (RangeTest.lower mixedRanges)).1 = (ofTree mixedRanges true).tree ∧
      guardedCount (ElseGuard.run (RangeTest.lower mixedRanges)).2 = 1 ∧ RangeTest.count mixedRanges = 2 := by
  have h : mixedRanges.IsScriptTree := by decide +kernel
  have hheads : ∀ v ∈ DepthIndex.heads mixedRanges, hangsOnRange v.node = false := by decide +kernel
  exact ⟨h, hheads, (ofTree_eq_guard_lower h hheads).1, by decide +kernel, by decide +kernel⟩

end Normalized
end Deflatten
