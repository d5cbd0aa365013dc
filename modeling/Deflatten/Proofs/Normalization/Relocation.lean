import Deflatten.Proofs.Normalization.PlannedChains
import Deflatten.Proofs.Tree.Edits
import Mathlib.Logic.Function.Basic
/-!
# Places under a plan

A node that lies within a guarded block stands one step deeper after a plan has been carried out. `Plan.relocate` is
the new path of the node at a path. To guard the chain at a relocated head is to carry out the plan with a test for one
more head (`Plan.modifyAt_tail_apply`), and the rerouting that `ElseGuard.steps` does then is the relocation for the new
plan (`Plan.reroute_relocate`).
-/

namespace Deflatten

namespace Tree

/-- A path that leads to a node without going on along a chain in its last step. -/
inductive LeadsToHead : Tree → List Step → Tree → Prop
  | here (t : Tree) : LeadsToHead t [] t
  | child {t c u : Tree} {s : Step} {p : List Step} : (s, c) ∈ t.children →
      (p = [] → ElseGuard.continues t s = false) → LeadsToHead c p u → LeadsToHead t (s :: p) u

theorem LeadsToHead.leads {t u : Tree} {p : List Step} (h : t.LeadsToHead p u) : t.Leads p u := by
  induction h with
  | here t => exact .here t
  | child hc _ _ ih => exact .child hc ih

theorem LeadsToHead.hasDistinctFields {t u : Tree} {p : List Step} (h : t.LeadsToHead p u)
    (ht : t.HasDistinctFields) : u.HasDistinctFields := by
  induction h with
  | here => exact ht
  | child hc _ _ ih => exact ih (ht.child hc)

end Tree

namespace ElseGuard

theorem reroute_append (p moved path : TreePath) : reroute (p ++ moved) (p ++ path) = p ++ reroute moved path := by
  have hprefix : (p ++ moved).isPrefixOf (p ++ path) = moved.isPrefixOf path := by
    rw [Bool.eq_iff_iff, List.isPrefixOf_iff_prefix, List.isPrefixOf_iff_prefix, List.prefix_append_right_inj]
  rw [reroute, reroute, hprefix]
  split
  · simp [List.drop_append]
  · rfl

theorem reroute_of_head_ne {s s' : Step} (h : s ≠ s') (moved path : TreePath) :
    reroute (s :: moved) (s' :: path) = s' :: path := by
  simp [reroute, List.isPrefixOf, h]

theorem reroute_nil (s : Step) (moved : TreePath) : reroute (s :: moved) [] = [] := by
  simp [reroute, List.isPrefixOf]

namespace Plan

open Deflatten.Tree

variable {plan : Plan} {t u c : Tree} {s : Step} {p : TreePath}

/-- A plan with a test for the chain at one more head. -/
def set (plan : Plan) (p : TreePath) (test : SelectorTest) : Plan := Function.update plan p (some test)

/-- The way from a guarded `else` part to the block that it holds; nothing where nothing is guarded. -/
def detour (plan : Plan) (t : Tree) (s : Step) (c : Tree) : TreePath :=
  if continues t s && c.isBlock && (plan []).isSome then [consequentStep] else []

/-- The path at which a node stands after a plan has been carried out. -/
def relocate (plan : Plan) (t : Tree) : TreePath → TreePath
  | [] => []
  | s :: p =>
    match t.step? s with
    | some c => s :: (plan.detour t s c ++ (plan.into t s).relocate c p)
    | none => s :: p

/-- What a plan says below the node at a path. -/
def along (plan : Plan) (t : Tree) : TreePath → Plan
  | [] => plan
  | s :: p =>
    match t.step? s with
    | some c => (plan.into t s).along c p
    | none => plan

/-! ## One test more -/

@[simp] theorem set_nil_of_cons (plan : Plan) (s : Step) (p : TreePath) (test : SelectorTest) :
    plan.set (s :: p) test [] = plan [] := by
  simp [set]

@[simp] theorem set_nil_nil (plan : Plan) (test : SelectorTest) : plan.set [] test [] = some test := by
  simp [set]

theorem into_set_of_ne {s' : Step} (h : s' ≠ s) (plan : Plan) (t : Tree) (p : TreePath) (test : SelectorTest) :
    (plan.set (s :: p) test).into t s' = plan.into t s' := by
  funext q
  cases q with
  | nil => simp [into, set, h]
  | cons a q => simp [into, set, h]

/-- Below the step to a head, the plan has a test more there. -/
theorem into_set (hs : p = [] → continues t s = false) (test : SelectorTest) :
    (plan.set (s :: p) test).into t s = (plan.into t s).set p test := by
  funext q
  cases q with
  | nil =>
    cases p with
    | nil => simp [into, set, hs rfl]
    | cons a p => simp [into, set]
  | cons a q => simp [into, set, Function.update_apply]

theorem into_set_nil_of_continues (h : continues t s) (test : SelectorTest) :
    (plan.set [] test).into t s = (plan.into t s).set [] test := by
  funext q
  cases q with
  | nil => simp [into, set, h]
  | cons a q => simp [into, set]

theorem into_set_nil_of_not_continues (h : continues t s = false) (test : SelectorTest) :
    (plan.set [] test).into t s = plan.into t s := by
  funext q
  cases q with
  | nil => simp [into, set, h]
  | cons a q => simp [into, set]

theorem into_set_nil_of_ne (h : s ≠ alternateStep) (plan : Plan) (t : Tree) (test : SelectorTest) :
    (plan.set [] test).into t s = plan.into t s :=
  into_set_nil_of_not_continues (by simp [continues, h]) test

/-- A node that is no member of a chain is not affected by what a plan says of it. -/
theorem apply_set_nil (hc : c.isConditional = false) (test : SelectorTest) :
    (plan.set [] test).apply c = plan.apply c := by
  refine apply_congr_children fun d _ => ?_
  have hs : continues c d.1 = false := by simp [continues, hc]
  rw [applyChild_of_not_continues hs, applyChild_of_not_continues hs, into_set_nil_of_not_continues hs]

theorem relocate_set_nil (hc : c.isConditional = false) (test : SelectorTest) (p : TreePath) :
    (plan.set [] test).relocate c p = plan.relocate c p := by
  cases p with
  | nil => rfl
  | cons s p =>
    have hs : continues c s = false := by simp [continues, hc]
    rw [relocate, relocate, into_set_nil_of_not_continues hs]
    simp [detour, hs]

/-- The path of a node depends on what a plan says of the nodes above it. -/
theorem relocate_congr {plan plan' : Plan} {t : Tree} {p : TreePath}
    (h : ∀ q, q <+: p → q ≠ p → plan q = plan' q) : plan.relocate t p = plan'.relocate t p := by
  induction p generalizing t plan plan' with
  | nil => rfl
  | cons s p ih =>
    have hroot : plan [] = plan' [] := h [] (List.nil_prefix ..) (List.cons_ne_nil s p).symm
    rw [relocate, relocate]
    cases t.step? s with
    | none => rfl
    | some c =>
      have hinto : (plan.into t s).relocate c p = (plan'.into t s).relocate c p := by
        refine ih fun q hq hne => ?_
        have hbelow : plan (s :: q) = plan' (s :: q) :=
          h (s :: q) (List.cons_prefix_cons.mpr ⟨rfl, hq⟩) fun heq => hne (List.cons.inj heq).2
        cases q with
        | nil => rw [into, into, hroot, hbelow]
        | cons a q => exact hbelow
      simp only [detour, hroot, hinto]

/-! ## Nodes at relocated paths -/

theorem relocate_of_child (ht : t.HasDistinctFields) (hc : (s, c) ∈ t.children) (plan : Plan) (p : TreePath) :
    plan.relocate t (s :: p) = s :: (plan.detour t s c ++ (plan.into t s).relocate c p) := by
  rw [relocate, step?_of_mem_children ht.self hc]

theorem along_of_child (ht : t.HasDistinctFields) (hc : (s, c) ∈ t.children) (plan : Plan) (p : TreePath) :
    plan.along t (s :: p) = (plan.into t s).along c p := by
  rw [along, step?_of_mem_children ht.self hc]

theorem at?_detour (plan : Plan) (t : Tree) (s : Step) (c : Tree) (p : TreePath) :
    (plan.applyChild t s c).at? (plan.detour t s c ++ p) = ((plan.into t s).apply c).at? p := by
  rw [applyChild, detour]
  cases hs : continues t s with
  | false => rfl
  | true =>
    cases hplan : plan [] with
    | none => simp
    | some test =>
      rw [if_pos rfl, guardBlock, isBlock_apply]
      cases hblock : c.isBlock with
      | false => rfl
      | true =>
        have hstep : (ifThen test.toTree ((plan.into t s).apply c) .null).step? consequentStep =
            some ((plan.into t s).apply c) := by
          simp [step?, consequentStep, field?, fields, ifThen, List.lookup_cons]
        rw [if_pos rfl]
        simp only [Bool.and_self, Option.isSome_some, if_true, List.cons_append, List.nil_append, at?, hstep,
          Option.bind_some]

/-- What the plan makes of a node stands at the relocated path. -/
theorem at?_relocate (ht : t.HasDistinctFields) (h : t.Leads p u) :
    (plan.apply t).at? (plan.relocate t p) = some ((plan.along t p).apply u) := by
  induction h generalizing plan with
  | here => rfl
  | child hc _ ih =>
    rw [relocate_of_child ht hc, along_of_child ht hc, at?, step?_apply ht.self hc, Option.bind_some, at?_detour,
      ih (ht.child hc)]

/-- At a head, what a plan says is what it says of the path. -/
theorem along_nil (ht : t.HasDistinctFields) (h : t.LeadsToHead p u) : plan.along t p [] = plan p := by
  induction h generalizing plan with
  | here => rfl
  | @child t c u s p hc hs _ ih =>
    rw [along_of_child ht hc, ih (ht.child hc)]
    cases p with
    | nil => exact into_nil_of_not_continues (hs rfl)
    | cons a p => rfl

/-! ## Changes at relocated paths -/

theorem modifyAt_detour {plan' : Plan} {f : Tree → Tree}
    (h : ((plan.into t s).apply c).modifyAt f p = plan'.apply c) :
    (plan.applyChild t s c).modifyAt f (plan.detour t s c ++ p) =
      if continues t s then guardBlock (plan []) (plan'.apply c) else plan'.apply c := by
  rw [applyChild, detour]
  cases hs : continues t s with
  | false => exact h
  | true =>
    cases hplan : plan [] with
    | none => simpa using h
    | some test =>
      rw [if_pos rfl, if_pos rfl, guardBlock, guardBlock, isBlock_apply, isBlock_apply]
      cases hblock : c.isBlock with
      | false => exact h
      | true =>
        rw [if_pos rfl, if_pos rfl, ← h]
        simp [ifThen, modifyAt, step?, setStep, Tree.set, putField, consequentStep, field?, fields, List.lookup_cons]

/-- To change what the plan makes of a head as one more test there would change it is to carry out the plan with that
test. -/
theorem modifyAt_relocate {f : Tree → Tree} {test : SelectorTest} (ht : t.HasDistinctFields) (h : t.LeadsToHead p u)
    (hf : f ((plan.along t p).apply u) = ((plan.along t p).set [] test).apply u) :
    (plan.apply t).modifyAt f (plan.relocate t p) = (plan.set p test).apply t := by
  induction h generalizing plan with
  | here => exact hf
  | @child t c u s p hc hs _ ih =>
    rw [along_of_child ht hc] at hf
    have hchild := modifyAt_detour (ih (ht.child hc) hf)
    rw [relocate_of_child ht hc, modifyAt, step?_apply ht.self hc]
    simp only [hchild]
    have hnew : (plan.set (s :: p) test).applyChild t s c =
        if continues t s then guardBlock (plan []) (((plan.into t s).set p test).apply c)
        else ((plan.into t s).set p test).apply c := by
      rw [applyChild, into_set hs, set_nil_of_cons]
    rw [← hnew]
    exact setStep_apply ht.self hc fun s' hs' => (into_set_of_ne hs' plan t p test).symm

/-! ## Guarding a tail -/

/-- To guard the last member of a chain is to carry out the plan with the test there. -/
theorem guardTail_apply {test : SelectorTest} (hplan : plan [] = none) (hfs : (t.fields.map Prod.fst).Nodup)
    (hcond : t.isConditional) (hc : (t.get "alternate").isConditional = false) (hblock : (t.get "alternate").isBlock) :
    guardTail test (plan.apply t) = (plan.set [] test).apply t := by
  have hcontinues : continues t alternateStep := continues_iff.mpr ⟨hcond, rfl⟩
  have hnode := isNode_of_hasTag hblock
  have hmem : (alternateStep, t.get "alternate") ∈ t.children :=
    get_mem_children (isNode_of_isConditional hcond) rfl hnode
  have hold : (plan.apply t).get "alternate" = (plan.into t alternateStep).apply (t.get "alternate") := by
    rw [alternate_apply hcond hnode, hplan, guardBlock_none]
  have hnew : (plan.set [] test).applyChild t alternateStep (t.get "alternate") =
      ifThen test.toTree ((plan.into t alternateStep).apply (t.get "alternate")) .null := by
    rw [applyChild_of_continues hcontinues, into_set_nil_of_continues hcontinues, apply_set_nil hc, set_nil_nil,
      guardBlock, isBlock_apply, if_pos hblock]
  rw [guardTail, hold, ← hnew]
  exact setStep_apply hfs hmem fun s' hs' => (into_set_nil_of_ne hs' plan t test).symm

/-- To guard the tail of a chain for which the plan has no test is to carry out the plan with the test at the head. -/
theorem modifyAt_guardTail {test : SelectorTest} (hplan : plan [] = none) (ht : t.HasDistinctFields)
    (hcond : t.isConditional) (hblock : t.finalElse.isBlock) :
    (plan.apply t).modifyAt (guardTail test) (chainPath (t.chain.length - 1)) = (plan.set [] test).apply t := by
  induction t using chain_induction generalizing plan with
  | stop t h => rw [h] at hcond; cases hcond
  | member t _ ih =>
    rw [chain_eq hcond, List.length_cons, Nat.add_sub_cancel]
    cases hc : (t.get "alternate").isConditional with
    | true =>
      -- The tail lies further along the chain, where the plan has no test either.
      have hcontinues : continues t alternateStep := continues_iff.mpr ⟨hcond, rfl⟩
      have hmem : (alternateStep, t.get "alternate") ∈ t.children :=
        get_mem_children (isNode_of_isConditional hcond) rfl (isNode_of_isConditional hc)
      have hrest := ih ((into_alternate_nil hcond).trans hplan) (ht.child hmem) hc
        (by rwa [← finalElse_of_more hcond hc])
      have hlen : (t.get "alternate").chain.length = (t.get "alternate").chain.length - 1 + 1 := by
        have := List.length_pos_iff.mpr (chain_ne_nil hc)
        omega
      have hstep : (plan.apply t).step? alternateStep =
          some ((plan.into t alternateStep).apply (t.get "alternate")) := by
        have hpart : (plan.apply t).step? alternateStep = some (plan.applyChild t alternateStep (t.get "alternate")) :=
          step?_apply ht.self hmem
        rwa [applyChild_of_continues hcontinues, hplan, guardBlock_none] at hpart
      have hnew : (plan.set [] test).applyChild t alternateStep (t.get "alternate") =
          ((plan.into t alternateStep).set [] test).apply (t.get "alternate") := by
        rw [applyChild_of_continues hcontinues, into_set_nil_of_continues hcontinues, guardBlock_of_not_isBlock]
        rw [isBlock_apply]
        exact not_isBlock_of_isConditional hc
      rw [hlen, chainPath_succ, modifyAt, hstep]
      simp only [hrest]
      rw [← hnew]
      exact setStep_apply ht.self hmem fun s' hs' => (into_set_nil_of_ne hs' plan t test).symm
    | false =>
      rw [finalElse_of_last hcond hc] at hblock
      rw [chain_of_not_isConditional hc]
      exact guardTail_apply hplan ht.self hcond hc hblock

/-- To guard the chain at a relocated head is to carry out the plan with the test at that head. -/
theorem modifyAt_tail_apply {test : SelectorTest} (ht : t.HasDistinctFields) (h : t.LeadsToHead p u)
    (hplan : plan p = none) (hcond : u.isConditional) (hblock : u.finalElse.isBlock) :
    (plan.apply t).modifyAt (guardTail test) (plan.relocate t p ++ chainPath (u.chain.length - 1)) =
      (plan.set p test).apply t := by
  rw [modifyAt_append]
  refine modifyAt_relocate ht h ?_
  exact modifyAt_guardTail ((along_nil ht h).trans hplan) (h.hasDistinctFields ht) hcond hblock

/-! ## Rerouting -/

theorem detour_set_nil (hcond : t.isConditional) (test : SelectorTest) :
    (plan.set [] test).detour t alternateStep c = if c.isBlock then [consequentStep] else [] := by
  have hcontinues : continues t alternateStep := continues_iff.mpr ⟨hcond, rfl⟩
  simp [detour, hcontinues]

/-- Rerouting where the head of the chain is the root. -/
theorem reroute_relocate_chain {w : Tree} {q : TreePath} {test : SelectorTest} (ht : t.HasDistinctFields)
    (hplan : plan [] = none) (hcond : t.isConditional) (hblock : t.finalElse.isBlock) (hq : t.Leads q w) :
    reroute (chainPath t.chain.length) (plan.relocate t q) = (plan.set [] test).relocate t q := by
  induction t using chain_induction generalizing plan q with
  | stop t h => rw [h] at hcond; cases hcond
  | member t _ ih =>
    rw [chain_eq hcond, List.length_cons, chainPath_succ]
    cases hq with
    | here => exact reroute_nil _ _
    | @child _ c _ s q hc hq =>
      rw [relocate_of_child ht hc, relocate_of_child ht hc]
      by_cases hs : s = alternateStep
      · subst hs
        have hcontinues : continues t alternateStep := continues_iff.mpr ⟨hcond, rfl⟩
        have hget : t.get "alternate" = c := get_of_field? (step?_of_mem_children ht.self hc)
        have hold : plan.detour t alternateStep c = [] := by simp [detour, hplan]
        have hcut : ∀ moved path : TreePath,
            reroute (alternateStep :: moved) (alternateStep :: path) = alternateStep :: reroute moved path :=
          reroute_append [alternateStep]
        rw [hold, List.nil_append, hcut, into_set_nil_of_continues hcontinues, detour_set_nil hcond, ← hget]
        cases hnext : (t.get "alternate").isConditional with
        | true =>
          -- The block lies further along the chain.
          rw [finalElse_of_more hcond hnext] at hblock
          rw [not_isBlock_of_isConditional hnext, if_neg Bool.false_ne_true, List.nil_append]
          congr 1
          refine ih ?_ ((into_alternate_nil hcond).trans hplan) hnext hblock (by rwa [hget])
          rw [hget]
          exact ht.child hc
        | false =>
          rw [finalElse_of_last hcond hnext] at hblock
          rw [chain_of_not_isConditional hnext, if_pos hblock, relocate_set_nil hnext]
          simp [chainPath, reroute]
      · have hcontinues : continues t s = false := by simp [continues, hs]
        rw [reroute_of_head_ne (Ne.symm hs), into_set_nil_of_not_continues hcontinues]
        simp [detour, hcontinues]

/-- To reroute a relocated path past a block that has just been guarded is to relocate it for the new plan. -/
theorem reroute_relocate {w : Tree} {q : TreePath} {test : SelectorTest} (ht : t.HasDistinctFields)
    (h : t.LeadsToHead p u) (hplan : plan p = none) (hcond : u.isConditional) (hblock : u.finalElse.isBlock)
    (hq : t.Leads q w) :
    reroute (plan.relocate t p ++ chainPath u.chain.length) (plan.relocate t q) = (plan.set p test).relocate t q := by
  induction h generalizing plan q with
  | here => exact reroute_relocate_chain ht hplan hcond hblock hq
  | @child t c u s p hc hs _ ih =>
    rw [relocate_of_child ht hc, List.cons_append]
    cases hq with
    | here => exact reroute_nil _ _
    | @child _ c' _ s' q hc' hq =>
      rw [relocate_of_child ht hc', relocate_of_child ht hc']
      have hdetour : (plan.set (s :: p) test).detour t s' c' = plan.detour t s' c' := by
        simp [detour]
      rw [hdetour]
      by_cases heq : s' = s
      · subst heq
        have hsame : c' = c := by
          have h₁ := step?_of_mem_children ht.self hc
          rw [step?_of_mem_children ht.self hc'] at h₁
          exact Option.some.inj h₁
        subst hsame
        have hinto : (plan.into t s') p = none := by
          cases p with
          | nil => rwa [into_nil_of_not_continues (hs rfl)]
          | cons a p => exact hplan
        rw [into_set hs, ← ih (ht.child hc) hinto hcond hblock hq, List.append_assoc]
        exact (reroute_append (s' :: plan.detour t s' c') _ _)
      · rw [reroute_of_head_ne (Ne.symm heq), into_set_of_ne heq]

end Plan
end ElseGuard
end Deflatten
