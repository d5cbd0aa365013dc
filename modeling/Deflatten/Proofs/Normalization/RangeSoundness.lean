import Deflatten.Proofs.Normalization.Execution
import Deflatten.Proofs.Normalization.Selectors
/-!
# When lowering keeps the choice

A chain selects its first member whose test holds. A range test `v < N` is lowered to the test for `N - 1`, the one value
that it may still have to catch. So lowering keeps what a chain over one variable selects, for every value that is not
negative, if and only if each range test finds all smaller values taken by the members before it
(`RangeTest.selectedMember_lower_iff`).
-/

namespace Deflatten

namespace Tree

/-- The place of the member that a chain selects, the first whose test holds; none if the chain is gone through to its
end. -/
def selectedMember (σ : Valuation) (t : Tree) : Option Nat := t.chain.findIdx? fun member => σ.holds (member.get "test")

/-- Every member of a chain tests the one variable, by equality or as a range, for an integer. -/
def TestsOnly (name : Scalar) (t : Tree) : Prop :=
  ∀ member ∈ t.chain, ∃ operator n, SelectorTest.ofConditional? member = some ⟨name, operator, .int n⟩

end Tree

/-- Of two conditions, one narrower than the other, the first places agree if and only if the place that the wider one
finds satisfies the narrower one. -/
theorem findIdx?_eq_iff_of_imp {α : Type} {p q : α → Bool} {l : List α} (h : ∀ a ∈ l, q a → p a) :
    l.findIdx? q = l.findIdx? p ↔
      ∀ (i : Nat) (a : α), l[i]? = some a → p a → (∀ j < i, ∀ b, l[j]? = some b → p b = false) → q a := by
  -- Where the wider condition fails the narrower one does too, and both go on to the rest.
  induction l with
  | nil => simp
  | cons a l ih =>
    have hrest := ih fun b hb => h b (List.mem_cons_of_mem _ hb)
    rw [List.findIdx?_cons, List.findIdx?_cons]
    cases hp : p a with
    | true =>
      -- The wider condition stops here, so that nothing is asked of later places.
      constructor
      · intro heq i b hb hpb hbefore
        cases i with
        | zero =>
          cases hb
          cases hq : q a with
          | true => rfl
          | false => rw [hq] at heq; simp at heq
        | succ i =>
          have hfirst := hbefore 0 (Nat.succ_pos i) a rfl
          rw [hp] at hfirst
          cases hfirst
      · intro hall
        have hq : q a = true := hall 0 a rfl hp fun j hj => absurd hj (Nat.not_lt_zero j)
        rw [hq, if_pos rfl, if_pos rfl]
    | false =>
      have hq : q a = false := by
        cases hq : q a with
        | true => rw [h a List.mem_cons_self hq] at hp; cases hp
        | false => rfl
      have hinj : Function.Injective (Option.map (· + 1) : Option Nat → Option Nat) :=
        Option.map_injective fun _ _ => Nat.succ.inj
      rw [hq, if_neg Bool.false_ne_true, if_neg Bool.false_ne_true, hinj.eq_iff, hrest]
      constructor
      · intro hall i b hb hpb hbefore
        cases i with
        | zero =>
          cases hb
          rw [hp] at hpb
          cases hpb
        | succ i => exact hall i b hb hpb fun j hj c hc => hbefore (j + 1) (Nat.succ_lt_succ hj) c hc
      · intro hall i b hb hpb hbefore
        refine hall (i + 1) b hb hpb fun j hj c hc => ?_
        cases j with
        | zero =>
          cases hc
          exact hp
        | succ j => exact hbefore j (Nat.lt_of_succ_lt_succ hj) c hc

namespace Valuation

variable {σ : Valuation} {test : SelectorTest} {n : Int}

theorem holds_of_ofConditional? {member : Tree} (h : SelectorTest.ofConditional? member = some test) :
    σ.holds (member.get "test") = σ.satisfies test := by
  rw [SelectorTest.ofConditional?] at h
  rw [holds, h]

theorem satisfies_lessThan (σ : Valuation) (name : Scalar) (n : Int) :
    σ.satisfies ⟨name, SelectorTest.lessThan, .int n⟩ = decide (σ.value name < n) := by
  have hrange : SelectorTest.isEquality ⟨name, SelectorTest.lessThan, .int n⟩ = false := rfl
  rw [satisfies, hrange, if_neg Bool.false_ne_true, Number.less_int]

/-- A range test for a positive number is lowered to the test for the number below it; any other test stays. -/
theorem satisfies_lowered (σ : Valuation) (name : Scalar) (n : Int) :
    σ.satisfies (SelectorTest.lowered ⟨name, SelectorTest.lessThan, .int n⟩) =
      if 1 ≤ n then decide (σ.value name = n - 1) else decide (σ.value name < n) := by
  rw [SelectorTest.lowered, Number.pred_int, SelectorTest.isNegative_int]
  by_cases h : 1 ≤ n
  · have hpos : ¬n - 1 < 0 := by omega
    rw [if_pos h, if_pos (by simp [hpos]), satisfies]
    exact (Number.same_int _ _).trans (Bool.beq_eq_decide_eq _ _)
  · have hneg : n - 1 < 0 := by omega
    rw [if_neg h, if_neg (by simp [hneg]), satisfies_lessThan]

/-- What a lowered test catches, the test caught. -/
theorem satisfies_of_satisfies_lowered (hn : test.value = .int n)
    (hop : test.operator = SelectorTest.equality ∨ test.operator = SelectorTest.lessThan)
    (h : σ.satisfies test.lowered) : σ.satisfies test := by
  obtain ⟨name, operator, value⟩ := test
  simp only at hn hop
  subst hn
  rcases hop with rfl | rfl
  · exact h
  · rw [satisfies_lowered] at h
    rw [satisfies_lessThan, decide_eq_true_eq]
    split at h
    · have hlast := of_decide_eq_true h
      omega
    · exact of_decide_eq_true h

end Valuation

namespace RangeTest

open Deflatten.Tree

variable {σ : Valuation} {t member : Tree} {name : Scalar} {test : SelectorTest} {n : Int}

/-- The test of a lowered member. -/
theorem holds_lower (hcond : member.isConditional) (h : SelectorTest.ofConditional? member = some test) :
    σ.holds ((lower member).get "test") = σ.satisfies test.lowered := by
  have hlowered := ofConditional?_lower hcond
  rw [h, Option.map_some] at hlowered
  exact Valuation.holds_of_ofConditional? hlowered

/-- What a lowered member catches, the member caught. -/
theorem holds_of_holds_lower (h : t.TestsOnly name) (hmember : member ∈ t.chain)
    (hholds : σ.holds ((lower member).get "test")) : σ.holds (member.get "test") := by
  obtain ⟨operator, n, htest⟩ := h member hmember
  rw [holds_lower (isConditional_of_mem_chain hmember) htest] at hholds
  rw [Valuation.holds_of_ofConditional? htest]
  exact Valuation.satisfies_of_satisfies_lowered rfl (SelectorTest.ofTree?_eq_some htest).2.2.2.2 hholds

/-- A member catches less afterwards only if it is a range test and the value lies below its last one. -/
theorem range_of_not_holds_lower (h : t.TestsOnly name) (hmember : member ∈ t.chain) (hpos : 0 ≤ σ.value name)
    (hholds : σ.holds (member.get "test")) (hnot : σ.holds ((lower member).get "test") = false) :
    ∃ n, SelectorTest.ofConditional? member = some ⟨name, SelectorTest.lessThan, .int n⟩ ∧ 1 ≤ n ∧
      σ.value name ≤ n - 2 := by
  obtain ⟨operator, n, htest⟩ := h member hmember
  rw [holds_lower (isConditional_of_mem_chain hmember) htest] at hnot
  rw [Valuation.holds_of_ofConditional? htest] at hholds
  rcases (SelectorTest.ofTree?_eq_some htest).2.2.2.2 with hop | hop
  · -- An equality test is left as it is.
    have hop : operator = SelectorTest.equality := hop
    subst hop
    have hsame : SelectorTest.lowered ⟨name, SelectorTest.equality, .int n⟩ = ⟨name, SelectorTest.equality, .int n⟩ :=
      rfl
    rw [hsame, hholds] at hnot
    cases hnot
  · have hop : operator = SelectorTest.lessThan := hop
    subst hop
    rw [Valuation.satisfies_lowered] at hnot
    rw [Valuation.satisfies_lessThan, decide_eq_true_eq] at hholds
    have hle : 1 ≤ n := by omega
    rw [if_pos hle, decide_eq_false_iff_not] at hnot
    exact ⟨n, htest, hle, by omega⟩

/-- Lowering keeps what a chain over one variable selects, for every value that is not negative, if and only if each
range test `v < N` with a positive `N` comes after members whose tests hold for all of `0` to `N - 2`. -/
theorem selectedMember_lower_iff (h : t.TestsOnly name) :
    (∀ σ : Valuation, 0 ≤ σ.value name → selectedMember σ (lower t) = selectedMember σ t) ↔
      ∀ (i : Nat) (member : Tree) (n : Int), t.chain[i]? = some member →
        SelectorTest.ofConditional? member = some ⟨name, SelectorTest.lessThan, .int n⟩ → 1 ≤ n →
          ∀ σ : Valuation, 0 ≤ σ.value name → σ.value name ≤ n - 2 →
            ∃ j < i, ∃ earlier : Tree, t.chain[j]? = some earlier ∧ σ.holds (earlier.get "test") := by
  have hsame : ∀ σ : Valuation, selectedMember σ (lower t) = selectedMember σ t ↔
      ∀ (i : Nat) (member : Tree), t.chain[i]? = some member → σ.holds (member.get "test") →
        (∀ j < i, ∀ earlier, t.chain[j]? = some earlier → σ.holds (earlier.get "test") = false) →
          σ.holds ((lower member).get "test") := by
    intro σ
    rw [selectedMember, chain_lower, List.findIdx?_map]
    exact findIdx?_eq_iff_of_imp fun member hmember => holds_of_holds_lower h hmember
  constructor
  · intro hkept i member n hi htest hle σ hpos hsmall
    -- Otherwise the range test is the first to catch the value, and loses it.
    by_contra hnone
    have hbefore : ∀ j < i, ∀ earlier, t.chain[j]? = some earlier → σ.holds (earlier.get "test") = false := by
      intro j hj earlier hearlier
      by_contra hholds
      exact hnone ⟨j, hj, earlier, hearlier, by simpa using hholds⟩
    have hholds : σ.holds (member.get "test") := by
      rw [Valuation.holds_of_ofConditional? htest, Valuation.satisfies_lessThan, decide_eq_true_eq]
      omega
    have hafter := (hsame σ).mp (hkept σ hpos) i member hi hholds hbefore
    rw [holds_lower (isConditional_of_mem_chain (List.mem_of_getElem? hi)) htest, Valuation.satisfies_lowered,
      if_pos hle, decide_eq_true_eq] at hafter
    omega
  · intro hcaught σ hpos
    rw [hsame]
    intro i member hi hholds hbefore
    by_contra hnot
    obtain ⟨n, htest, hle, hsmall⟩ :=
      range_of_not_holds_lower h (List.mem_of_getElem? hi) hpos hholds (by simpa using hnot)
    obtain ⟨j, hj, earlier, hearlier, hcatches⟩ := hcaught i member n hi htest hle σ hpos hsmall
    rw [hbefore j hj earlier hearlier] at hcatches
    cases hcatches

/-- The chain `if (s === 0) { a(); } else if (s < 2) { b(); } else { c(); }`. -/
def lastValueChain : Tree :=
  .ifThen (SelectorTest.equals (.text "s") (.int 0)).toTree (blockOf [callOf "a"])
    (.ifThen (SelectorTest.toTree ⟨.text "s", SelectorTest.lessThan, .int 2⟩) (blockOf [callOf "b"])
      (blockOf [callOf "c"]))

theorem chain_lastValueChain : lastValueChain.chain = [lastValueChain, lastValueChain.get "alternate"] := by
  have hend : ((lastValueChain.get "alternate").get "alternate").chain = [] := chain_of_not_isConditional rfl
  rw [chain_eq rfl, chain_eq (t := lastValueChain.get "alternate") rfl, hend]

/-- The range test finds the value 0 taken, so that the chain selects the same member for all values that are not
negative. -/
theorem selectedMember_lower_lastValueChain :
    lastValueChain.TestsOnly (.text "s") ∧ ∀ σ : Valuation, 0 ≤ σ.value (.text "s") →
      selectedMember σ (lower lastValueChain) = selectedMember σ lastValueChain := by
  have hfirst : SelectorTest.ofConditional? lastValueChain = some (.equals (.text "s") (.int 0)) := by decide +kernel
  have hsecond : SelectorTest.ofConditional? (lastValueChain.get "alternate") =
      some ⟨.text "s", SelectorTest.lessThan, .int 2⟩ := by decide +kernel
  have honly : lastValueChain.TestsOnly (.text "s") := by
    intro member hmember
    rw [chain_lastValueChain, List.mem_pair] at hmember
    rcases hmember with rfl | rfl
    · exact ⟨_, _, hfirst⟩
    · exact ⟨_, _, hsecond⟩
  refine ⟨honly, (selectedMember_lower_iff honly).mpr ?_⟩
  intro i member n hi htest hle σ hpos hsmall
  rw [chain_lastValueChain] at hi
  match i with
  | 0 =>
    cases hi
    rw [hfirst] at htest
    exact absurd htest (by simp [SelectorTest.equals, SelectorTest.equality, SelectorTest.lessThan])
  | 1 =>
    -- The value is 0, and the first member tests for it.
    cases hi
    rw [hsecond] at htest
    cases htest
    refine ⟨0, Nat.zero_lt_one, lastValueChain, by rw [chain_lastValueChain]; rfl, ?_⟩
    have hzero : σ.value (.text "s") = 0 := by omega
    rw [Valuation.holds_of_ofConditional? hfirst, Valuation.satisfies]
    show (Number.int (σ.value (.text "s"))).same (.int 0)
    rw [hzero, Number.same_int]
    rfl
  | i + 2 => cases hi

end RangeTest
end Deflatten
