import Deflatten.Proofs.Normalization.Plan
import Deflatten.Proofs.Tests
/-!
# Chains under a plan

A plan leaves every recognised test as it is. It adds one member to a chain for which it has a test, if the chain ends
in a block (`Plan.chainTests_apply`); any other chain keeps its length, its tests and the kind of its end, and with them
what is to become of it (`Plan.outcome_apply`).
-/

namespace Deflatten.ElseGuard.Plan

open Deflatten.Tree

variable {plan : Plan} {t : Tree}

/-! ## Tests -/

@[simp] theorem name?_apply (plan : Plan) (t : Tree) : (plan.apply t).name? = t.name? := by
  rw [apply_eq, name?_mapChildren isNode_applyChild]

@[simp] theorem number?_apply (plan : Plan) (t : Tree) : (plan.apply t).number? = t.number? := by
  rw [apply_eq, number?_mapChildren isNode_applyChild]

@[simp] theorem ofTree?_apply (plan : Plan) (t : Tree) : SelectorTest.ofTree? (plan.apply t) = SelectorTest.ofTree? t := by
  cases ht : t.hasTag Tag.binary with
  | false => simp [SelectorTest.ofTree?, ht]
  | true =>
    have hcontinues : ∀ s, continues t s = false := by
      intro s
      simp only [hasTag, beq_iff_eq] at ht
      simp [continues, isConditional, hasTag, ht, Tag.binary, Tag.conditional]
    rw [apply_eq]
    refine SelectorTest.ofTree?_mapChildren isNode_applyChild (fun s c _ => ?_) fun s c _ => ?_
    · rw [applyChild_of_not_continues (hcontinues s), name?_apply]
    · rw [applyChild_of_not_continues (hcontinues s), number?_apply]

theorem get_apply_of_isNode {name : String} (ht : t.isNode) (hn : isNote name = false) (hc : (t.get name).isNode) :
    (plan.apply t).get name = plan.applyChild t ⟨name, none⟩ (t.get name) := by
  rw [apply_eq, get_mapChildren ht _ hn, mapSlot_of_isNode hc]

theorem isNode_get_apply (plan : Plan) {name : String} (ht : t.isNode) (hn : isNote name = false) :
    ((plan.apply t).get name).isNode = (t.get name).isNode := by
  rw [apply_eq, get_mapChildren ht _ hn]
  generalize t.get name = value
  cases value with
  | scalar _ => rfl
  | list _ => rfl
  | record _ => rfl
  | node tag fs =>
    rw [mapSlot_of_isNode rfl]
    exact isNode_applyChild _ _ rfl

/-- The value of a field that is not the end of a chain is treated alone. -/
theorem get_apply_of_not_continues {name : String} (ht : t.isNode) (hn : isNote name = false)
    (hs : continues t ⟨name, none⟩ = false) (hc : (t.get name).isNode) :
    (plan.apply t).get name = (plan.into t ⟨name, none⟩).apply (t.get name) := by
  rw [get_apply_of_isNode ht hn hc, applyChild_of_not_continues hs]

@[simp] theorem ofConditional?_apply (plan : Plan) (t : Tree) :
    SelectorTest.ofConditional? (plan.apply t) = SelectorTest.ofConditional? t := by
  rw [SelectorTest.ofConditional?, SelectorTest.ofConditional?]
  cases ht : t.isNode with
  | false => rw [apply_eq, mapChildren_of_not_isNode ht]
  | true =>
    cases hc : (t.get "test").isNode with
    | true =>
      have hs : continues t ⟨"test", none⟩ = false := by simp [continues, alternateStep]
      rw [get_apply_of_not_continues ht rfl hs hc, ofTree?_apply]
    | false =>
      rw [SelectorTest.ofTree?_of_not_isNode hc,
        SelectorTest.ofTree?_of_not_isNode ((isNode_get_apply plan ht rfl).trans hc)]

/-! ## Members -/

/-- What a plan makes of the `else` part of a member. -/
theorem alternate_apply (ht : t.isConditional) (hc : (t.get "alternate").isNode) :
    (plan.apply t).get "alternate" =
      guardBlock (plan []) ((plan.into t alternateStep).apply (t.get "alternate")) := by
  rw [get_apply_of_isNode (isNode_of_isConditional ht) rfl hc]
  exact applyChild_of_continues (continues_iff.mpr ⟨ht, rfl⟩) _

theorem into_alternate_nil (ht : t.isConditional) : plan.into t alternateStep [] = plan [] :=
  into_nil_of_continues (continues_iff.mpr ⟨ht, rfl⟩)

/-- Where a chain goes on, its rest is treated alone. -/
theorem alternate_apply_of_isConditional (ht : t.isConditional) (hc : (t.get "alternate").isConditional) :
    (plan.apply t).get "alternate" = (plan.into t alternateStep).apply (t.get "alternate") := by
  rw [alternate_apply ht (isNode_of_isConditional hc), guardBlock_of_not_isBlock]
  rw [isBlock_apply]
  exact not_isBlock_of_isConditional hc

/-- Where a chain ends, the plan adds a member if it has a test and the end is a block. -/
theorem chainTests_alternate_apply (ht : t.isConditional) (hc : (t.get "alternate").isConditional = false) :
    ((plan.apply t).get "alternate").chainTests =
      if (t.get "alternate").isBlock then
        (plan []).toList.filterMap fun test => SelectorTest.ofTree? test.toTree else [] := by
  cases hnode : (t.get "alternate").isNode with
  | false =>
    have hnew := (isNode_get_apply plan (isNode_of_isConditional ht) (rfl : isNote "alternate" = false)).trans hnode
    rw [chainTests_of_not_isConditional (not_isConditional_of_not_isNode hnew), not_isBlock_of_not_isNode hnode,
      if_neg Bool.false_ne_true]
  | true =>
    rw [alternate_apply ht hnode]
    cases hplan : plan [] with
    | none =>
      rw [guardBlock_none, chainTests_of_not_isConditional (by rwa [isConditional_apply])]
      simp
    | some test =>
      rw [guardBlock, isBlock_apply]
      cases hblock : (t.get "alternate").isBlock with
      | false =>
        rw [if_neg Bool.false_ne_true, if_neg Bool.false_ne_true,
          chainTests_of_not_isConditional (by rwa [isConditional_apply])]
      | true =>
        -- The new member is the last: its branch is the block, and it has no `else`.
        rw [if_pos rfl, if_pos rfl, chainTests_eq rfl]
        have hrest : (ifThen test.toTree ((plan.into t alternateStep).apply (t.get "alternate")) .null).get "alternate"
            = .null := by simp [ifThen]
        have htest : SelectorTest.ofConditional?
            (ifThen test.toTree ((plan.into t alternateStep).apply (t.get "alternate")) .null) =
              SelectorTest.ofTree? test.toTree := by simp [SelectorTest.ofConditional?, ifThen]
        rw [hrest, htest, chainTests_of_not_isConditional rfl]
        cases hread : SelectorTest.ofTree? test.toTree with
        | none => simp [hread]
        | some _ => simp [hread]

/-- A plan adds its test for a chain to the tests of the chain, if the chain ends in a block. -/
theorem chainTests_apply (plan : Plan) (ht : t.isConditional) :
    (plan.apply t).chainTests = t.chainTests ++
      if t.finalElse.isBlock then (plan []).toList.filterMap fun test => SelectorTest.ofTree? test.toTree else [] := by
  induction t using chain_induction generalizing plan with
  | stop t h => rw [h] at ht; cases ht
  | member t h ih =>
    rw [chainTests_eq h, chainTests_eq (by rwa [isConditional_apply]), ofConditional?_apply, List.append_assoc]
    congr 1
    cases hc : (t.get "alternate").isConditional with
    | true =>
      rw [alternate_apply_of_isConditional h hc, ih _ hc, into_alternate_nil h, finalElse_of_more h hc]
    | false =>
      rw [chainTests_alternate_apply h hc, chainTests_of_not_isConditional hc, finalElse_of_last h hc, List.nil_append]

/-- A plan keeps the members of a chain, and adds one with its test for the chain if that ends in a block. -/
theorem exists_chain_apply (plan : Plan) (ht : t.isConditional) :
    ∃ ms block, ms.length = t.chain.length ∧ (plan.apply t).chain = ms ++
      if t.finalElse.isBlock then (plan []).toList.map fun test => ifThen test.toTree block .null else [] := by
  induction t using chain_induction generalizing plan with
  | stop t h => rw [h] at ht; cases ht
  | member t h ih =>
    have hown : (plan.apply t).chain = plan.apply t :: ((plan.apply t).get "alternate").chain :=
      chain_eq (by rwa [isConditional_apply])
    rw [hown, chain_eq h]
    cases hc : (t.get "alternate").isConditional with
    | true =>
      obtain ⟨ms, block, hlen, hchain⟩ := ih (plan.into t alternateStep) hc
      refine ⟨plan.apply t :: ms, block, congrArg (· + 1) hlen, ?_⟩
      rw [alternate_apply_of_isConditional h hc, hchain, into_alternate_nil h, finalElse_of_more h hc, List.cons_append]
    | false =>
      rw [chain_of_not_isConditional hc, finalElse_of_last h hc]
      cases hnode : (t.get "alternate").isNode with
      | false =>
        have hnew := (isNode_get_apply plan (isNode_of_isConditional h) (rfl : isNote "alternate" = false)).trans hnode
        refine ⟨[plan.apply t], .null, rfl, ?_⟩
        rw [chain_of_not_isConditional (not_isConditional_of_not_isNode hnew), not_isBlock_of_not_isNode hnode]
        rfl
      | true =>
        refine ⟨[plan.apply t], (plan.into t alternateStep).apply (t.get "alternate"), rfl, ?_⟩
        rw [alternate_apply h hnode]
        cases plan [] with
        | none =>
          rw [guardBlock_none, chain_of_not_isConditional (by rwa [isConditional_apply]), Option.toList_none,
            List.map_nil, ite_self]
          rfl
        | some test =>
          rw [guardBlock, isBlock_apply]
          cases (t.get "alternate").isBlock with
          | false =>
            rw [if_neg Bool.false_ne_true, if_neg Bool.false_ne_true,
              chain_of_not_isConditional (by rwa [isConditional_apply])]
            rfl
          | true =>
            have hlast : (ifThen test.toTree ((plan.into t alternateStep).apply (t.get "alternate")) .null).get
                "alternate" = .null := by simp [ifThen]
            rw [if_pos rfl, if_pos rfl, chain_eq rfl, hlast, chain_of_not_isConditional rfl]
            rfl

theorem length_chain_apply (plan : Plan) (ht : t.isConditional) :
    (plan.apply t).chain.length = t.chain.length + if t.finalElse.isBlock && (plan []).isSome then 1 else 0 := by
  obtain ⟨ms, block, hlen, hchain⟩ := exists_chain_apply plan ht
  rw [hchain, List.length_append, hlen]
  cases t.finalElse.isBlock <;> cases plan [] <;> rfl

/-- A chain that gets a test ends in no block afterwards; any other ends in a block if it did before. -/
theorem isBlock_finalElse_apply (plan : Plan) (ht : t.isConditional) :
    (plan.apply t).finalElse.isBlock = (t.finalElse.isBlock && (plan []).isNone) := by
  induction t using chain_induction generalizing plan with
  | stop t h => rw [h] at ht; cases ht
  | member t h ih =>
    have h' : (plan.apply t).isConditional := by rwa [isConditional_apply]
    cases hc : (t.get "alternate").isConditional with
    | true =>
      have hnext : (plan.apply t).get "alternate" = (plan.into t alternateStep).apply (t.get "alternate") :=
        alternate_apply_of_isConditional h hc
      rw [finalElse_of_more h hc, finalElse_of_more h' (by rw [hnext]; rwa [isConditional_apply]), hnext, ih _ hc,
        into_alternate_nil h]
    | false =>
      rw [finalElse_of_last h hc]
      cases hnode : (t.get "alternate").isNode with
      | false =>
        have hnew := (isNode_get_apply plan (isNode_of_isConditional h) (rfl : isNote "alternate" = false)).trans hnode
        rw [finalElse_of_last h' (not_isConditional_of_not_isNode hnew), not_isBlock_of_not_isNode hnode,
          not_isBlock_of_not_isNode hnew, Bool.false_and]
      | true =>
        have hnext : (plan.apply t).get "alternate" =
            guardBlock (plan []) ((plan.into t alternateStep).apply (t.get "alternate")) := alternate_apply h hnode
        cases hplan : plan [] with
        | none =>
          rw [hplan, guardBlock_none] at hnext
          rw [finalElse_of_last h' (by rw [hnext]; rwa [isConditional_apply]), hnext, isBlock_apply, Option.isNone_none,
            Bool.and_true]
        | some test =>
          rw [hplan, guardBlock, isBlock_apply] at hnext
          rw [Option.isNone_some, Bool.and_false]
          cases hblock : (t.get "alternate").isBlock with
          | true =>
            -- The block is the branch of the new member, which has no `else` part.
            rw [hblock, if_pos rfl] at hnext
            rw [finalElse_of_more h' (by rw [hnext]; rfl), hnext, finalElse_ifThen]
            rfl
          | false =>
            rw [hblock, if_neg Bool.false_ne_true] at hnext
            rw [finalElse_of_last h' (by rw [hnext]; rwa [isConditional_apply]), hnext, isBlock_apply, hblock]

/-! ## Outcomes -/

theorem nextSelector_congr {u u' : Tree} (htest : SelectorTest.ofConditional? u = SelectorTest.ofConditional? u')
    (hchain : u.chainTests = u'.chainTests) : nextSelector u = nextSelector u' := by
  have hused : usedValues u = usedValues u' := by
    funext name
    rw [usedValues, usedValues, ← chainTests, ← chainTests, hchain]
  rw [nextSelector, nextSelector, htest, hused]

/-- A plan that has no test for a chain does not change what is to become of it. -/
theorem outcome_apply (hplan : plan [] = none) (ht : t.isConditional) : outcome (plan.apply t) = outcome t := by
  have hnext : nextSelector (plan.apply t) = nextSelector t := by
    refine nextSelector_congr (ofConditional?_apply plan t) ?_
    rw [chainTests_apply plan ht, hplan]
    simp
  rw [outcome, outcome, ← finalElse, ← finalElse, isBlock_finalElse_apply plan ht, hplan, hnext, Option.isNone_none,
    Bool.and_true]

end Deflatten.ElseGuard.Plan
