import Deflatten.Proofs.Normalization.Execution
import Deflatten.Proofs.Normalization.FlatChains
import Deflatten.Proofs.Script.Visible
import Mathlib.Data.List.Find
/-!
# Dispatchers

A dispatcher is a flat chain that tests one variable for values. It has a block for each value and may end in one for
the value after the greatest. `Tree.takenBranch` is the branch that a chain takes; a dispatcher takes the first that is
for the value of its variable (`Tree.IsDispatcher.takenBranch_eq`).

Normalization gives the block at the end a case of its own. So a normalized dispatcher has a case for each value that the
dispatcher answers, and the first one holds the branch that was taken before (`Normalized.find?_arms_head`).
-/

namespace Deflatten

namespace Tree

/-- Whether a tree is a block with a statement in it. -/
def hasStatements (t : Tree) : Bool :=
  match t.blockBody? with
  | some (first :: _) => Script.Printer.isBodyStatement first
  | _ => false

/-- The test of a dispatcher for a value. -/
def caseOf (name : String) (n : Int) : SelectorTest := .equals (.text name) (.int n)

/-- A flat chain that tests a variable for values, with statements for each value and none or some for the rest. -/
structure IsDispatcher (name : String) (t : Tree) : Prop where
  isConditional : t.isConditional
  isFlatChain : t.IsFlatChain
  cases : ∀ arm ∈ t.arms, ∃ n, arm.1 = some (caseOf name n)
  branches : ∀ arm ∈ t.arms, arm.2.hasStatements
  rest : t.finalElse.isNull ∨ t.finalElse.hasStatements

theorem exists_caseOf_iff {name : String} {test : Option SelectorTest} :
    (∃ n, test = some (caseOf name n)) ↔
      (test.bind fun test => test.value.int?).any fun n => test == some (caseOf name n) := by
  constructor
  · rintro ⟨n, rfl⟩
    simp [caseOf, SelectorTest.equals, Number.int?]
  · intro h
    cases hn : test.bind fun test => test.value.int? with
    | none => rw [hn] at h; cases h
    | some n => exact ⟨n, by simpa [hn] using h⟩

instance (name : String) (test : Option SelectorTest) : Decidable (∃ n, test = some (caseOf name n)) :=
  decidable_of_iff _ exists_caseOf_iff.symm

instance (name : String) (t : Tree) : Decidable (t.IsDispatcher name) :=
  decidable_of_iff
    (t.isConditional ∧ t.IsFlatChain ∧ (∀ arm ∈ t.arms, ∃ n, arm.1 = some (caseOf name n)) ∧
      (∀ arm ∈ t.arms, arm.2.hasStatements) ∧ (t.finalElse.isNull ∨ t.finalElse.hasStatements))
    ⟨fun ⟨hcond, hflat, hcases, hbranches, hrest⟩ => ⟨hcond, hflat, hcases, hbranches, hrest⟩,
      fun h => ⟨h.isConditional, h.isFlatChain, h.cases, h.branches, h.rest⟩⟩

/-- The values that a dispatcher answers: those of its cases, and the one after the greatest if it ends in a block. -/
def answeredValues (name : String) (t : Tree) : List Int :=
  ElseGuard.equalityValues t (.text name) ++
    if t.finalElse.isBlock then [ElseGuard.nextValue t (.text name)] else []

/-- The branches of a dispatcher with their tests, the block at its end being the one for the next value. -/
def answeredArms (name : String) (t : Tree) : List (Option SelectorTest × Tree) :=
  t.arms ++
    if t.finalElse.isBlock then [(some (caseOf name (ElseGuard.nextValue t (.text name))), t.finalElse)] else []

/-- The branch that a chain takes: that of the first member whose test holds, and the final `else` if none does. -/
def takenBranch (σ : Valuation) (t : Tree) : Tree :=
  match t.chain.find? fun member => σ.holds (member.get "test") with
  | some member => member.get "consequent"
  | none => t.finalElse

variable {name : String} {t : Tree} {n : Int} {σ : Valuation}

/-- A chain executes the branch that it takes. -/
theorem exec_takenBranch (h : t.isConditional) : exec σ t = exec σ (takenBranch σ t) := by
  induction t using chain_induction with
  | stop t hstop => rw [hstop] at h; cases h
  | member t _ ih =>
    rw [exec_of_isConditional h, takenBranch, chain_eq h, List.find?_cons]
    cases hholds : σ.holds (t.get "test") with
    | true => rfl
    | false =>
      rw [if_neg Bool.false_ne_true]
      cases hnext : (t.get "alternate").isConditional with
      | true =>
        rw [ih hnext, takenBranch, finalElse_of_more h hnext]
      | false => rw [chain_of_not_isConditional hnext, finalElse_of_last h hnext, List.find?_nil]

theorem isBlock_of_hasStatements (h : t.hasStatements) : t.isBlock := by
  cases hblock : t.isBlock with
  | true => rfl
  | false => simp [hasStatements, blockBody?, hblock] at h

theorem isNode_of_hasStatements (h : t.hasStatements) : t.isNode := isNode_of_hasTag (isBlock_of_hasStatements h)

/-! ## Cases -/

@[simp] theorem caseOf_eq_iff {m : Int} : caseOf name n = caseOf name m ↔ n = m := by
  simp [caseOf, SelectorTest.equals]

theorem ofTree?_caseOf (name : String) (n : Int) :
    SelectorTest.ofTree? (caseOf name n).toTree = some (caseOf name n) :=
  SelectorTest.ofTree?_toTree (by simp [caseOf, SelectorTest.equals]) (.inl rfl)

theorem lowered_caseOf (name : String) (n : Int) : (caseOf name n).lowered = caseOf name n := rfl

theorem tests_caseOf (name : String) (n : Int) : (caseOf name n).tests (.text name) := by
  simp [caseOf, SelectorTest.tests, SelectorTest.equals, SelectorTest.isEquality]

/-- The test for a value holds where the variable has that value. -/
theorem satisfies_caseOf (σ : Valuation) (name : String) (n : Int) :
    σ.satisfies (caseOf name n) = (σ.value (.text name) == n) := by
  rw [Valuation.satisfies, caseOf, SelectorTest.equals, SelectorTest.isEquality, beq_self_eq_true, if_pos rfl,
    Number.same_int]

namespace IsDispatcher

theorem hasIntegerTests (h : t.IsDispatcher name) : t.HasIntegerTests := by
  intro test htest
  rw [chainTests_eq_arms] at htest
  obtain ⟨arm, harm, heq⟩ := List.mem_filterMap.mp htest
  obtain ⟨n, hn⟩ := h.cases arm harm
  rw [hn] at heq
  cases heq
  exact ⟨n, rfl⟩

theorem mem_equalityValues_iff (h : t.IsDispatcher name) :
    n ∈ ElseGuard.equalityValues t (.text name) ↔ ∃ arm ∈ t.arms, arm.1 = some (caseOf name n) := by
  rw [ElseGuard.equalityValues, chainTests_eq_arms, List.filterMap_filterMap, List.mem_filterMap]
  refine exists_congr fun arm => and_congr_right fun harm => ?_
  obtain ⟨m, hm⟩ := h.cases arm harm
  rw [hm, Option.bind_some, if_pos (tests_caseOf name m), Option.some.injEq, caseOf_eq_iff]
  exact Option.some.injEq m n ▸ Iff.rfl

/-- A dispatcher gets a test for the next value if it ends in a block. -/
theorem guardTest?_eq (h : t.IsDispatcher name) :
    ElseGuard.guardTest? t =
      if t.finalElse.isBlock then some (caseOf name (ElseGuard.nextValue t (.text name))) else none := by
  have hhead : (SelectorTest.ofConditional? t, t.get "consequent") ∈ t.arms := by
    rw [arms_eq h.isConditional]
    exact List.mem_cons_self
  obtain ⟨m, hm⟩ := h.cases _ hhead
  have hm : SelectorTest.ofConditional? t = some (caseOf name m) := hm
  have hname : (caseOf name m).name = .text name := rfl
  rw [ElseGuard.guardTest?_eq h.hasIntegerTests, ElseGuard.guardedName?, h.isConditional, hm, Bool.true_and]
  split
  · rw [Option.bind_some, hname, if_pos (tests_caseOf name m)]
    rfl
  · rfl

/-- A dispatcher takes its first branch for the value of its variable, and else its final `else`. -/
theorem takenBranch_eq (h : t.IsDispatcher name) (σ : Valuation) :
    takenBranch σ t =
      ((t.arms.find? fun arm => arm.1 == some (caseOf name (σ.value (.text name)))).map Prod.snd).getD t.finalElse := by
  have hmembers : ∀ member ∈ t.chain, σ.holds (member.get "test") =
      (SelectorTest.ofConditional? member == some (caseOf name (σ.value (.text name)))) := by
    intro member hmember
    obtain ⟨m, hm⟩ := h.cases _ (List.mem_map_of_mem hmember)
    have hm : SelectorTest.ofTree? (member.get "test") = some (caseOf name m) := hm
    rw [Valuation.holds, SelectorTest.ofConditional?, hm]
    show σ.satisfies (caseOf name m) = _
    rw [satisfies_caseOf, Bool.eq_iff_iff, beq_iff_eq, beq_iff_eq, Option.some.injEq, caseOf_eq_iff, eq_comm]
  rw [takenBranch, List.find?_congr hmembers, arms, List.find?_map]
  show _ = (((t.chain.find? fun member =>
    SelectorTest.ofConditional? member == some (caseOf name (σ.value (.text name)))).map _).map Prod.snd).getD _
  cases t.chain.find? fun member => SelectorTest.ofConditional? member == some (caseOf name (σ.value (.text name))) with
  | some member => rfl
  | none => rfl

/-- Every branch is for a value that the dispatcher answers. -/
theorem exists_case_of_mem_answeredArms (h : t.IsDispatcher name) {arm : Option SelectorTest × Tree}
    (harm : arm ∈ answeredArms name t) : ∃ m ∈ answeredValues name t, arm.1 = some (caseOf name m) := by
  rcases List.mem_append.mp harm with hold | hnew
  · obtain ⟨m, hm⟩ := h.cases arm hold
    exact ⟨m, List.mem_append_left _ (h.mem_equalityValues_iff.mpr ⟨arm, hold, hm⟩), hm⟩
  · split at hnew
    · rename_i hblock
      rw [List.mem_singleton] at hnew
      subst hnew
      refine ⟨_, List.mem_append_right _ ?_, rfl⟩
      rw [if_pos hblock]
      exact List.mem_singleton_self _
    · cases hnew

/-- The first branch for a value is the one that the dispatcher takes, and there is one if it answers the value. -/
theorem find?_answeredArms (h : t.IsDispatcher name) (hσ : σ.value (.text name) = n) :
    ((answeredArms name t).find? fun arm => arm.1 == some (caseOf name n)) =
      if n ∈ answeredValues name t then some (some (caseOf name n), takenBranch σ t) else none := by
  rw [answeredArms, List.find?_append, h.takenBranch_eq, hσ]
  cases hfind : t.arms.find? fun arm => arm.1 == some (caseOf name n) with
  | some arm =>
    have hcase : arm.1 = some (caseOf name n) := by simpa using List.find?_some hfind
    have hmem : n ∈ answeredValues name t :=
      List.mem_append_left _ (h.mem_equalityValues_iff.mpr ⟨arm, List.mem_of_find?_eq_some hfind, hcase⟩)
    rw [if_pos hmem, Option.some_or, Option.map_some, Option.getD_some, ← hcase]
  | none =>
    have hnot : n ∉ ElseGuard.equalityValues t (.text name) := by
      intro hmem
      obtain ⟨arm, harm, hcase⟩ := h.mem_equalityValues_iff.mp hmem
      exact List.find?_eq_none.mp hfind arm harm (by rw [hcase, beq_self_eq_true])
    rw [Option.none_or, Option.map_none, Option.getD_none, answeredValues]
    cases t.finalElse.isBlock with
    | false => rw [if_neg Bool.false_ne_true, if_neg Bool.false_ne_true, List.append_nil, if_neg hnot, List.find?_nil]
    | true =>
      rw [if_pos rfl, if_pos rfl, List.find?_singleton]
      by_cases heq : ElseGuard.nextValue t (.text name) = n
      · rw [heq, beq_self_eq_true, if_pos rfl, if_pos (List.mem_append_right _ (List.mem_singleton_self n))]
      · have hne : (some (caseOf name (ElseGuard.nextValue t (.text name))) == some (caseOf name n)) = false := by
          simpa using heq
        have hnot' : n ∉ ElseGuard.equalityValues t (.text name) ++ [ElseGuard.nextValue t (.text name)] := by
          rw [List.mem_append, List.mem_singleton, not_or]
          exact ⟨hnot, fun h => heq h.symm⟩
        rw [hne, if_neg Bool.false_ne_true, if_neg hnot']

end IsDispatcher

end Tree
end Deflatten
