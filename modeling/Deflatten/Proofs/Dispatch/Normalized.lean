import Deflatten.Proofs.Dispatch.Basic
import Deflatten.Proofs.Normalization.TestOrigins
/-!
# Normalized dispatchers

Normalization gives the block at the end of a dispatcher a case of its own. So a normalized dispatcher ends in no block,
has a case for each value that the dispatcher answers, and the first case for a value holds the branch that was taken
before (`Normalized.find?_arms_head`). A chain that does not test a variable does not test it afterwards either
(`Normalized.exists_name_of_mem_chainTests_head`).
-/

namespace Deflatten

namespace Normalized

open Deflatten.Tree ElseGuard

variable {t : Tree} {name : String} {n : Int}

/-! ## Any tree -/

@[simp] theorem tag?_head (lowerRanges : Bool) (t : Tree) : (head lowerRanges t).tag? = t.tag? := by
  rw [head]
  cases lowerRanges <;> simp

@[simp] theorem isConditional_head (lowerRanges : Bool) (t : Tree) :
    (head lowerRanges t).isConditional = t.isConditional := by
  simp [isConditional, hasTag]

@[simp] theorem isBlock_head (lowerRanges : Bool) (t : Tree) : (head lowerRanges t).isBlock = t.isBlock := by
  simp [isBlock, hasTag]

theorem hasDistinctFields_head (lowerRanges : Bool) (ht : t.HasDistinctFields) :
    (head lowerRanges t).HasDistinctFields := by
  rw [head]
  cases lowerRanges with
  | false => exact hasDistinctFields_guarded ht
  | true => exact RangeTest.hasDistinctFields_lower (hasDistinctFields_guarded ht)

theorem isFlatChain_head (lowerRanges : Bool) (ht : t.HasDistinctFields) (h : t.IsFlatChain) :
    (head lowerRanges t).IsFlatChain := by
  rw [head]
  cases lowerRanges with
  | false => exact isFlatChain_guarded _ ht h
  | true => exact RangeTest.isFlatChain_lower (hasDistinctFields_guarded ht) (isFlatChain_guarded _ ht h)

/-- A tree without `if` statements is only lowered. -/
theorem head_of_hasNoConditional (lowerRanges : Bool) (ht : t.HasDistinctFields) (h : t.HasNoConditional) :
    head lowerRanges t = if lowerRanges then RangeTest.lower t else t := by
  rw [head, guarded_eq_self ht h]

theorem hasNoConditional_head (lowerRanges : Bool) (ht : t.HasDistinctFields) (h : t.HasNoConditional) :
    (head lowerRanges t).HasNoConditional := by
  rw [head_of_hasNoConditional lowerRanges ht h]
  cases lowerRanges with
  | false => exact h
  | true => exact RangeTest.hasNoConditional_lower ht h

/-- A normalized chain ends in a block if it did before and got no test. -/
theorem isBlock_finalElse_head (lowerRanges : Bool) (hcond : t.isConditional) :
    (head lowerRanges t).finalElse.isBlock = (t.finalElse.isBlock && (guardTest? t).isNone) := by
  have hguarded := isBlock_finalElse_guarded (guardTest? t) hcond
  rw [head]
  cases lowerRanges with
  | false => exact hguarded
  | true =>
    rw [if_pos rfl, RangeTest.finalElse_lower (by rwa [isConditional_guarded]), RangeTest.isBlock_lower]
    exact hguarded

/-- The children of a node that is neither an `if` statement nor a comparison are treated as heads. -/
theorem children_head (lowerRanges : Bool) (ht : t.HasDistinctFields) (hcond : t.isConditional = false)
    (hbinary : t.hasTag Tag.binary = false) :
    (head lowerRanges t).children = t.children.map fun c => (c.1, head lowerRanges c.2) := by
  have hguarded : (guarded (guardTest? t) t).children =
      t.children.map fun c => (c.1, guarded (guardTest? c.2) c.2) := by
    rw [children_guarded _ ht.self]
    refine List.map_congr_left fun c _ => ?_
    have hs : continues t c.1 = false := by simp [continues, hcond]
    rw [guardedChild, childGuard, hs, hcond, if_neg Bool.false_ne_true, if_neg Bool.false_ne_true, Bool.false_and,
      if_neg Bool.false_ne_true]
  rw [head]
  cases lowerRanges with
  | false => exact hguarded
  | true =>
    have hnone : RangeTest.lowered? (guarded (guardTest? t) t) = none :=
      RangeTest.lowered?_of_not_binary (by rwa [hasTag_guarded])
    have hlower : (RangeTest.lower (guarded (guardTest? t) t)).children =
        (guarded (guardTest? t) t).children.map fun c => (c.1, RangeTest.lower c.2) := by
      rw [RangeTest.children_lower (hasDistinctFields_guarded ht).self, hnone]
      rfl
    rw [if_pos rfl, hlower, hguarded, List.map_map]
    rfl

/-- A normalized chain tests no variable that the chain does not test. -/
theorem exists_name_of_mem_chainTests_head (lowerRanges : Bool) (hcond : t.isConditional) {test : SelectorTest}
    (h : test ∈ (head lowerRanges t).chainTests) : ∃ before ∈ t.chainTests, test.name = before.name := by
  have hguarded : ∀ test ∈ (guarded (guardTest? t) t).chainTests, ∃ before ∈ t.chainTests, test.name = before.name := by
    intro test htest
    rw [guarded, Plan.chainTests_apply _ hcond] at htest
    rcases List.mem_append.mp htest with hold | hnew
    · exact ⟨test, hold, rfl⟩
    · split at hnew
      · obtain ⟨own, hown, hread⟩ := List.mem_filterMap.mp hnew
        obtain ⟨first, hfirst, -, hname⟩ := exists_name_of_guardTest? (Option.mem_toList.mp hown)
        exact ⟨first, hfirst, (SelectorTest.name_of_ofTree?_toTree hread).trans hname⟩
      · cases hnew
  rw [head] at h
  cases lowerRanges with
  | false => exact hguarded test h
  | true =>
    rw [if_pos rfl, RangeTest.chainTests_lower] at h
    obtain ⟨own, hown, rfl⟩ := List.mem_map.mp h
    have hname : own.lowered.name = own.name := by
      rw [SelectorTest.lowered]
      split <;> rfl
    obtain ⟨before, hbefore, heq⟩ := hguarded own hown
    exact ⟨before, hbefore, hname.trans heq⟩

/-! ## Dispatchers -/

/-- A branch of a dispatcher holds no `if` statement and has a statement. -/
theorem branch_of_mem_answeredArms (ht : t.HasDistinctFields) (h : t.IsDispatcher name)
    {arm : Option SelectorTest × Tree} (harm : arm ∈ answeredArms name t) :
    arm.2.HasDistinctFields ∧ arm.2.HasNoConditional ∧ arm.2.hasStatements := by
  rcases List.mem_append.mp harm with hold | hnew
  · have hstatements := h.branches arm hold
    have hnode := isNode_of_hasStatements hstatements
    exact ⟨ht.of_mem_nodes (arm_mem_nodes hold hnode), h.isFlatChain.branch hold hnode, hstatements⟩
  · split at hnew
    · rename_i hblock
      have hnode := isNode_of_hasTag hblock
      rw [List.mem_singleton] at hnew
      subst hnew
      refine ⟨ht.of_mem_nodes (finalElse_mem_nodes h.isConditional hnode),
        h.isFlatChain.finalElse h.isConditional hnode, ?_⟩
      rcases h.rest with hnull | hstatements
      · generalize t.finalElse = rest at hnull hblock
        cases rest with
        | scalar _ => cases hblock
        | _ => contradiction
      · exact hstatements
    · cases hnew

/-- Guarding turns the block at the end of a dispatcher into the branch for the next value. -/
theorem arms_guarded_of_isDispatcher (ht : t.HasDistinctFields) (h : t.IsDispatcher name) :
    (guarded (guardTest? t) t).arms = answeredArms name t := by
  rw [arms_guarded _ ht h.isFlatChain h.isConditional fun arm harm => isNode_of_hasStatements (h.branches arm harm),
    h.guardTest?_eq, answeredArms]
  cases t.finalElse.isBlock with
  | false => rfl
  | true => rw [if_pos rfl, if_pos rfl, if_pos rfl, Option.toList_some, List.map_singleton, ofTree?_caseOf]

/-- The cases of a normalized dispatcher: those that there were, and one for the next value if it ended in a block. -/
theorem arms_head (lowerRanges : Bool) (ht : t.HasDistinctFields) (h : t.IsDispatcher name) :
    (head lowerRanges t).arms = (answeredArms name t).map fun arm => (arm.1, head lowerRanges arm.2) := by
  -- Every branch is a block without `if` statements, so that it is only lowered.
  have hbranch : ∀ arm ∈ answeredArms name t,
      head lowerRanges arm.2 = if lowerRanges then RangeTest.lower arm.2 else arm.2 := by
    intro arm harm
    obtain ⟨hfields, hnone, -⟩ := branch_of_mem_answeredArms ht h harm
    exact head_of_hasNoConditional lowerRanges hfields hnone
  rw [head]
  cases lowerRanges with
  | false =>
    have hsame : (answeredArms name t).map (fun arm => (arm.1, head false arm.2)) = (answeredArms name t).map id :=
      List.map_congr_left fun arm harm => by rw [hbranch arm harm]; rfl
    rw [hsame, List.map_id, if_neg Bool.false_ne_true, arms_guarded_of_isDispatcher ht h]
  | true =>
    rw [if_pos rfl, RangeTest.arms_lower, arms_guarded_of_isDispatcher ht h]
    refine List.map_congr_left fun arm harm => ?_
    obtain ⟨m, -, hm⟩ := h.exists_case_of_mem_answeredArms harm
    rw [hbranch arm harm, hm, Option.map_some, lowered_caseOf, if_pos rfl]

/-- A normalized dispatcher ends in no block. -/
theorem not_isBlock_finalElse_head (lowerRanges : Bool) (h : t.IsDispatcher name) :
    (head lowerRanges t).finalElse.isBlock = false := by
  rw [isBlock_finalElse_head lowerRanges h.isConditional, h.guardTest?_eq]
  cases t.finalElse.isBlock <;> rfl

/-- The first case for a value in a normalized dispatcher holds the branch that the dispatcher takes for the value, and
there is one if the dispatcher answers the value. -/
theorem find?_arms_head (lowerRanges : Bool) (ht : t.HasDistinctFields) (h : t.IsDispatcher name) {σ : Valuation}
    (hσ : σ.value (.text name) = n) :
    ((head lowerRanges t).arms.find? fun arm => arm.1 == some (caseOf name n)) =
      if n ∈ answeredValues name t then some (some (caseOf name n), head lowerRanges (takenBranch σ t)) else none := by
  rw [arms_head lowerRanges ht h, List.find?_map]
  show ((answeredArms name t).find? fun arm => arm.1 == some (caseOf name n)).map _ = _
  rw [h.find?_answeredArms hσ, apply_ite (Option.map _), Option.map_some, Option.map_none]

end Normalized
end Deflatten
