import Deflatten.Proofs.Normalization.Correspondence
import Deflatten.Proofs.Tree.FlatChains
/-!
# Normalized flat chains

A flat chain stays flat in both passes. Its branches stay what they are; a chain that gets a test gets one branch more,
the block that was its final `else`, and then ends in no block (`ElseGuard.arms_guarded`).
-/

namespace Deflatten

namespace Tree

theorem hasNoConditional_toTree (test : SelectorTest) : test.toTree.HasNoConditional := by
  intro u hu
  rw [nodes_toTree] at hu
  simp only [List.mem_cons, List.not_mem_nil, or_false] at hu
  rcases hu with rfl | rfl | rfl <;> rfl

/-- An `if` statement without `else` is a flat chain. -/
theorem isFlatChain_ifThen (test : SelectorTest) {branch : Tree} (hnode : branch.isNode)
    (hbranch : branch.HasNoConditional) : (ifThen test.toTree branch .null).IsFlatChain := by
  refine isFlatChain_of_head ?_ ?_
  · intro c hc
    rw [children_ifThen rfl hnode] at hc
    rcases List.mem_cons.mp hc with rfl | hc
    · exact .inr (hasNoConditional_toTree test)
    · rw [List.mem_singleton] at hc
      subst hc
      exact .inr hbranch
  · have hnull : (ifThen test.toTree branch .null).get "alternate" = .null := by simp [ifThen]
    rw [hnull]
    exact isFlatChain_of_not_isConditional rfl

theorem arms_ifThen (test branch : Tree) :
    (ifThen test branch .null).arms = [(SelectorTest.ofTree? test, branch)] := by
  have hnull : (ifThen test branch .null).get "alternate" = .null := by simp [ifThen]
  have htest : (ifThen test branch .null).get "test" = test := by simp [ifThen]
  have hbranch : (ifThen test branch .null).get "consequent" = branch := by simp [ifThen]
  rw [arms_eq rfl, hnull, arms_of_not_isConditional rfl, SelectorTest.ofConditional?, htest, hbranch]

/-- The branches of a flat chain hold no `if` statement. -/
theorem IsFlatChain.branch {t : Tree} (h : t.IsFlatChain) {arm : Option SelectorTest × Tree} (harm : arm ∈ t.arms)
    (hnode : arm.2.isNode) : arm.2.HasNoConditional := by
  induction t using chain_induction with
  | stop t hstop =>
    rw [arms_of_not_isConditional hstop] at harm
    cases harm
  | member t hcond ih =>
    rw [arms_eq hcond] at harm
    rcases List.mem_cons.mp harm with rfl | harm
    · exact h.get hcond rfl (by decide) hnode
    · exact ih (h.alternate hcond) harm

/-- The `else` part with which a flat chain ends holds no `if` statement. -/
theorem IsFlatChain.finalElse {t : Tree} (h : t.IsFlatChain) (hcond : t.isConditional) (hnode : t.finalElse.isNode) :
    t.finalElse.HasNoConditional := by
  induction t using chain_induction with
  | stop t hstop => rw [hstop] at hcond; cases hcond
  | member t _ ih =>
    cases hnext : (t.get "alternate").isConditional with
    | true =>
      rw [finalElse_of_more hcond hnext] at hnode ⊢
      exact ih (h.alternate hcond) hnext hnode
    | false =>
      rw [finalElse_of_last hcond hnext] at hnode ⊢
      rcases h.head hcond (get_mem_children (isNode_of_isConditional hcond) rfl hnode) with ⟨-, hnext'⟩ | hnone
      · rw [hnext] at hnext'
        cases hnext'
      · exact hnone

end Tree

namespace ElseGuard

open Deflatten.Tree

variable {t : Tree} {own : Option SelectorTest}

/-- The `else` part of a member of a flat chain goes on with the chain, ends it, or is no node. -/
theorem alternate_guarded_cases (own : Option SelectorTest) (ht : t.HasDistinctFields) (h : t.IsFlatChain)
    (hcond : t.isConditional) :
    ((t.get "alternate").isConditional ∧ (t.get "alternate").HasDistinctFields ∧
        (guarded own t).get "alternate" = guarded own (t.get "alternate")) ∨
      ((t.get "alternate").isConditional = false ∧ (t.get "alternate").isNode ∧
        (t.get "alternate").HasNoConditional ∧ (guarded own t).get "alternate" = guardBlock own (t.get "alternate")) ∨
      (t.get "alternate").isNode = false ∧ ((guarded own t).get "alternate").isNode = false := by
  have hown := isNode_of_isConditional hcond
  cases hnode : (t.get "alternate").isNode with
  | false => exact .inr (.inr ⟨rfl, (isNode_get_guarded own hown rfl).trans hnode⟩)
  | true =>
    have hmem := get_mem_children hown (rfl : isNote "alternate" = false) hnode
    have hget := alternate_guarded own hcond ht.self hnode
    have hfields : (t.get "alternate").HasDistinctFields := ht.child hmem
    cases hnext : (t.get "alternate").isConditional with
    | true =>
      rw [guardBlock_of_not_isBlock (by rw [isBlock_guarded]; exact not_isBlock_of_isConditional hnext)] at hget
      exact .inl ⟨rfl, hfields, hget⟩
    | false =>
      rcases h.head hcond hmem with ⟨-, hnext'⟩ | hnone
      · rw [hnext] at hnext'
        cases hnext'
      · have hnone : (t.get "alternate").HasNoConditional := hnone
        rw [guarded_eq_self hfields hnone] at hget
        exact .inr (.inl ⟨rfl, rfl, hnone, hget⟩)

theorem isFlatChain_guardBlock (own : Option SelectorTest) (hnode : t.isNode) (h : t.HasNoConditional) :
    (guardBlock own t).IsFlatChain := by
  have hself : t.IsFlatChain := isFlatChain_of_not_isConditional h.self
  cases own with
  | none => exact hself
  | some test =>
    rw [guardBlock]
    split
    · exact isFlatChain_ifThen test hnode h
    · exact hself

/-- A child of a member of a flat chain goes on with the chain or holds no `if` statement, after the pass as before. -/
theorem guardedChild_of_isFlatChain (ht : t.HasDistinctFields) (h : t.IsFlatChain) (hcond : t.isConditional)
    {c : Step × Tree} (hc : c ∈ t.children) :
    (c.1 = alternateStep ∧ (guardedChild own t c.1 c.2).isConditional) ∨
      (guardedChild own t c.1 c.2).HasNoConditional := by
  rw [guardedChild]
  rcases h.head hcond hc with ⟨hstep, hnext⟩ | hnone
  · rw [if_pos (continues_iff.mpr ⟨hcond, hstep⟩),
      guardBlock_of_not_isBlock (by rw [isBlock_guarded]; exact not_isBlock_of_isConditional hnext)]
    exact .inl ⟨hstep, by rwa [isConditional_guarded]⟩
  · rw [guarded_eq_self (ht.child hc) hnone, guarded_eq_self (ht.child hc) hnone]
    split
    · -- The end of the chain: a block there becomes the branch of a new member.
      rename_i hs
      cases own with
      | none => exact .inr hnone
      | some test =>
        rw [guardBlock]
        split
        · exact .inl ⟨(continues_iff.mp hs).2, rfl⟩
        · exact .inr hnone
    · exact .inr hnone

/-- A flat chain stays flat. -/
theorem isFlatChain_guarded (own : Option SelectorTest) (ht : t.HasDistinctFields) (h : t.IsFlatChain) :
    (guarded own t).IsFlatChain := by
  induction t using chain_induction with
  | stop t hstop => exact isFlatChain_of_not_isConditional (by rwa [isConditional_guarded])
  | member t hcond ih =>
    refine isFlatChain_of_head ?_ ?_
    · intro c' hc'
      rw [children_guarded own ht.self] at hc'
      obtain ⟨c, hc, rfl⟩ := List.mem_map.mp hc'
      exact guardedChild_of_isFlatChain ht h hcond hc
    · rcases alternate_guarded_cases own ht h hcond with ⟨_, hfields, hget⟩ | ⟨_, hnode, hnone, hget⟩ | ⟨_, hnode⟩
      · rw [hget]
        exact ih hfields (h.alternate hcond)
      · rw [hget]
        exact isFlatChain_guardBlock own hnode hnone
      · exact isFlatChain_of_not_isConditional (not_isConditional_of_not_isNode hnode)

/-- The branches of a flat chain stay; if it gets a test and ends in a block, that is one branch more. -/
theorem arms_guarded (own : Option SelectorTest) (ht : t.HasDistinctFields) (h : t.IsFlatChain) (hcond : t.isConditional)
    (hbranches : ∀ arm ∈ t.arms, arm.2.isNode) :
    (guarded own t).arms = t.arms ++
      if t.finalElse.isBlock then own.toList.map fun test => (SelectorTest.ofTree? test.toTree, t.finalElse) else [] := by
  induction t using chain_induction with
  | stop t hstop => rw [hstop] at hcond; cases hcond
  | member t _ ih =>
    have hown := isNode_of_isConditional hcond
    rw [arms_eq hcond] at hbranches
    have hbranch : (t.get "consequent").isNode := hbranches _ List.mem_cons_self
    have hconsequent : (guarded own t).get "consequent" = t.get "consequent" := by
      have hmem := get_mem_children hown (rfl : isNote "consequent" = false) hbranch
      rw [get_guarded_of_isNode own hown ht.self rfl (by decide) hbranch]
      exact guarded_eq_self (ht.child hmem) (h.get hcond rfl (by decide) hbranch)
    have htest : SelectorTest.ofConditional? (guarded own t) = SelectorTest.ofConditional? t :=
      Plan.ofConditional?_apply _ t
    rw [arms_eq hcond, arms_eq (by rwa [isConditional_guarded]), htest, hconsequent, List.cons_append]
    congr 1
    -- What follows is the rest of the chain, a statement at its end, or nothing.
    rcases alternate_guarded_cases own ht h hcond with ⟨hnext, hfields, hget⟩ | ⟨hnext, hnode, _, hget⟩ | ⟨hnode, hnew⟩
    · rw [hget, finalElse_of_more hcond hnext]
      exact ih hfields (h.alternate hcond) hnext fun arm harm => hbranches arm (List.mem_cons_of_mem _ harm)
    · rw [hget, finalElse_of_last hcond hnext, arms_of_not_isConditional hnext, List.nil_append]
      cases own with
      | none => rw [guardBlock_none, arms_of_not_isConditional hnext, Option.toList_none, List.map_nil, ite_self]
      | some test =>
        rw [guardBlock]
        split
        · exact arms_ifThen _ _
        · exact arms_of_not_isConditional hnext
    · have hnext := not_isConditional_of_not_isNode hnode
      rw [arms_of_not_isConditional (not_isConditional_of_not_isNode hnew), arms_of_not_isConditional hnext,
        finalElse_of_last hcond hnext, not_isBlock_of_not_isNode hnode]
      rfl

end ElseGuard

namespace RangeTest

open Deflatten.Tree

variable {t : Tree}

theorem hasDistinctFields_lower (ht : t.HasDistinctFields) : (lower t).HasDistinctFields := by
  have hfields : ∀ own fs, (lowerFields own fs).map Prod.fst = fs.map Prod.fst := by
    intro own fs
    induction fs with
    | nil => rfl
    | cons f fs ih => rw [lowerFields, List.map_cons, List.map_cons, ih]
  intro w hw
  rcases mem_nodes_lower ht hw with ⟨u, hu, rfl⟩ | ⟨n, rfl⟩
  · have hnames : (lower u).fields.map Prod.fst = u.fields.map Prod.fst := by
      cases u with
      | scalar _ => rfl
      | list _ => rfl
      | record _ => rfl
      | node _ fs => exact hfields _ fs
    rw [hnames]
    exact ht u hu
  · simp [number, fields]

theorem hasNoConditional_lower (ht : t.HasDistinctFields) (h : t.HasNoConditional) : (lower t).HasNoConditional := by
  intro w hw
  rcases mem_nodes_lower ht hw with ⟨u, hu, rfl⟩ | ⟨n, rfl⟩
  · rw [isConditional_lower]
    exact h u hu
  · rfl

/-- A flat chain stays flat. -/
theorem isFlatChain_lower (ht : t.HasDistinctFields) (h : t.IsFlatChain) : (lower t).IsFlatChain := by
  induction t using chain_induction with
  | stop t hstop => exact isFlatChain_of_not_isConditional (by rwa [isConditional_lower])
  | member t hcond ih =>
    have hnone := lowered?_of_isConditional hcond
    refine isFlatChain_of_head ?_ ?_
    · intro c' hc'
      rw [children_lower ht.self, hnone] at hc'
      obtain ⟨c, hc, rfl⟩ := List.mem_map.mp hc'
      rcases h.head hcond hc with ⟨hstep, hnext⟩ | hother
      · exact .inl ⟨hstep, (isConditional_lower c.2).trans hnext⟩
      · exact .inr (hasNoConditional_lower (ht.child hc) hother)
    · rw [get_lower_of_none (isNode_of_isConditional hcond) hnone rfl]
      cases hnext : (t.get "alternate").isConditional with
      | false => exact isFlatChain_of_not_isConditional (by rwa [isConditional_lower])
      | true =>
        have hmem := get_mem_children (isNode_of_isConditional hcond) (rfl : isNote "alternate" = false)
          (isNode_of_isConditional hnext)
        exact ih (ht.child hmem) (h.alternate hcond)

theorem finalElse_lower (hcond : t.isConditional) : (lower t).finalElse = lower t.finalElse := by
  have htail : (lower t).chainTail = lower t.chainTail := by
    rw [chainTail, chainTail, chain_lower, List.getLast?_map]
    exact Option.getD_map ..
  have hlast := isConditional_of_mem_chain (chainTail_mem_chain hcond)
  rw [Tree.finalElse, htail, get_lower_of_none (isNode_of_isConditional hlast) (lowered?_of_isConditional hlast) rfl,
    Tree.finalElse]

end RangeTest
end Deflatten
