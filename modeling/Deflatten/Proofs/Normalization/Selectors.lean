import Deflatten.Proofs.Normalization.Correspondence
import Deflatten.Proofs.Normalization.NextValue
import Mathlib.Data.List.Forall2
/-!
# Selectors along a chain

The selector of a member that tests a variable is the value of its equality test, or the one that its range test is
lowered to. After both passes a chain tests the variable of its head for its selectors and, where it gets a test, for the
next value (`Normalized.usedValues_head`). The next value lies above every equality test, but one of the range tests may
be lowered to it: if the selectors were distinct, they stay so unless the chain `Collides`
(`Normalized.nodup_usedValues_iff`).
-/

namespace Deflatten

namespace SelectorTest

/-- The integer that a test selects: the value of an equality test, or what a range test is lowered to. -/
def selector? (test : SelectorTest) : Option Int :=
  match test.value with
  | .int n => if test.isEquality then some n else if 1 ≤ n then some (n - 1) else none
  | .float _ => none

theorem isNegative_int (n : Int) : (Number.int n).isNegative = decide (n < 0) := by
  rw [Number.isNegative, Number.less_int]

/-- A lowered test is an equality test for the selector if there is one, and else no equality test. -/
theorem lowered_spec {test : SelectorTest} {n : Int} (hn : test.value = .int n)
    (hop : test.operator = equality ∨ test.operator = lessThan) :
    test.lowered.name = test.name ∧ test.lowered.value.int?.isSome ∧
      test.selector? = if test.lowered.isEquality then test.lowered.value.int? else none := by
  obtain ⟨name, operator, value⟩ := test
  simp only at hn hop
  subst hn
  rcases hop with rfl | rfl
  · simp [lowered, selector?, isEquality, equality, lessThan, Number.int?]
  · rw [lowered]
    simp only [Number.pred_int, isNegative_int]
    by_cases h : n - 1 < 0
    · have hlt : ¬1 ≤ n := by omega
      simp [h, hlt, selector?, isEquality, equality, lessThan, Number.int?]
    · have hle : 1 ≤ n := by omega
      simp [h, hle, selector?, isEquality, equality, lessThan, equals, Number.int?]

end SelectorTest

namespace Tree

variable {t : Tree} {test : SelectorTest}

theorem operator_of_mem_chainTests (h : test ∈ t.chainTests) :
    test.operator = SelectorTest.equality ∨ test.operator = SelectorTest.lessThan := by
  obtain ⟨member, -, hmember⟩ := List.mem_filterMap.mp h
  exact (SelectorTest.ofTree?_eq_some hmember).2.2.2.2

end Tree

namespace ElseGuard

open Deflatten.Tree

variable {t : Tree}

/-- The selectors of the members of a chain that test a variable, in chain order. -/
def selectors (head : Tree) (name : Scalar) : List Int :=
  head.chainTests.filterMap fun test => if test.name.same name then test.selector? else none

/-- A chain gets a test for the very value that one of its range tests is lowered to. -/
def Collides (head : Tree) : Prop :=
  ∃ name, guardedName? head = some name ∧ ∃ range ∈ head.chainTests, range.operator = SelectorTest.lessThan ∧
    range.name.same name ∧ range.value = .int (nextValue head name + 1) ∧ 0 ≤ nextValue head name

/-- A guarded chain has one recognised test more. -/
theorem chainTests_guarded (h : t.HasIntegerTests) (ht : t.isConditional) :
    (guarded (guardTest? t) t).chainTests = t.chainTests ++ (guardTest? t).toList := by
  rw [guarded, Plan.chainTests_apply _ ht]
  congr 1
  show (if t.finalElse.isBlock then (guardTest? t).toList.filterMap _ else []) = _
  cases hguard : guardTest? t with
  | none => simp
  | some test =>
    have hname := hguard
    rw [guardTest?_eq h, Option.map_eq_some_iff] at hname
    obtain ⟨name, hname, -⟩ := hname
    rw [if_pos (guardedName?_eq_some hname).2.1, Option.toList_some, List.filterMap_cons, ofTree?_guardTest? h hguard]
    rfl

/-- The next value is a selector if a range test is lowered to it; the equality tests lie below. -/
theorem nextValue_mem_selectors_iff (h : t.HasIntegerTests) {name : Scalar} :
    nextValue t name ∈ selectors t name ↔ ∃ range ∈ t.chainTests, range.operator = SelectorTest.lessThan ∧
      range.name.same name ∧ range.value = .int (nextValue t name + 1) ∧ 0 ≤ nextValue t name := by
  rw [selectors, List.mem_filterMap]
  refine exists_congr fun test => and_congr_right fun hmem => ?_
  obtain ⟨n, hn⟩ := h test hmem
  cases hsame : test.name.same name with
  | false => simp
  | true =>
    rcases operator_of_mem_chainTests hmem with hop | hop
    · have hbelow : n < nextValue t name := by
        refine lt_nextValue (List.mem_filterMap.mpr ⟨test, hmem, ?_⟩)
        rw [SelectorTest.tests, SelectorTest.isEquality, hop, hsame, hn]
        rfl
      have hne : n ≠ nextValue t name := by omega
      simp [SelectorTest.selector?, SelectorTest.isEquality, hn, hop, hne, SelectorTest.equality, SelectorTest.lessThan]
    · simp only [if_true, SelectorTest.selector?, SelectorTest.isEquality, hn, hop, true_and, Number.int.injEq]
      have hcase : (if (SelectorTest.lessThan == SelectorTest.equality) = true then some n
          else if 1 ≤ n then some (n - 1) else none) = if 1 ≤ n then some (n - 1) else none := rfl
      rw [hcase]
      constructor
      · intro hsome
        split at hsome
        · have hpred := Option.some.inj hsome
          omega
        · cases hsome
      · rintro ⟨hvalue, hle⟩
        rw [if_pos (by omega)]
        congr 1
        omega

end ElseGuard

namespace Normalized

open Deflatten.Tree ElseGuard

variable {t : Tree}

/-- After both passes a chain tests a variable for its selectors, and for the value of the test that it got. -/
theorem usedValues_head (h : t.HasIntegerTests) (ht : t.isConditional) (name : Scalar) :
    usedValues (head true t) name = (selectors t name).map .int ++
      (guardTest? t).toList.filterMap fun test => if test.tests name then some test.value else none := by
  have hguard : ∀ test ∈ (guardTest? t).toList, ∃ x n, test = .equals x (.int n) := by
    intro test htest
    rw [guardTest?_eq h, Option.mem_toList, Option.map_eq_some_iff] at htest
    obtain ⟨x, -, heq⟩ := htest
    exact ⟨x, _, heq.symm⟩
  show usedValues (RangeTest.lower (guarded (guardTest? t) t)) name = _
  rw [usedValues, ← chainTests, RangeTest.chainTests_lower, chainTests_guarded h ht, List.map_append, List.filterMap_append,
    List.filterMap_map, List.filterMap_map, selectors, List.map_filterMap]
  congr 1
  · refine List.filterMap_congr fun test htest => ?_
    obtain ⟨n, hn⟩ := h test htest
    obtain ⟨hname, hvalue, hselector⟩ := SelectorTest.lowered_spec hn (operator_of_mem_chainTests htest)
    obtain ⟨m, hm⟩ := Option.isSome_iff_exists.mp hvalue
    have hlowered : test.lowered.value = .int m := by
      cases hv : test.lowered.value with
      | int k => rw [hv] at hm; cases hm; rfl
      | float x => rw [hv] at hm; cases hm
    rw [Function.comp_apply, SelectorTest.tests, hname, hselector, hlowered]
    cases test.lowered.isEquality <;> cases test.name.same name <;> rfl
  · refine List.filterMap_congr fun test htest => ?_
    obtain ⟨x, n, rfl⟩ := hguard test htest
    rfl

/-- Distinct selectors of a chain stay distinct if and only if the chain does not collide. -/
theorem nodup_usedValues_head_iff (h : t.HasIntegerTests) (ht : t.isConditional) {first : SelectorTest}
    (hfirst : SelectorTest.ofConditional? t = some first) (hnodup : (selectors t first.name).Nodup) :
    (usedValues (head true t) first.name).Nodup ↔ ¬Collides t := by
  have hinj : Function.Injective Number.int := fun a b hab => Number.int.inj hab
  rw [usedValues_head h ht]
  rw [guardTest?_eq h]
  cases hname : guardedName? t with
  | some name =>
    obtain ⟨-, -, first', hfirst', rfl, hself⟩ := guardedName?_eq_some hname
    rw [hfirst] at hfirst'
    cases hfirst'
    have hcollides : Collides t ↔ nextValue t first.name ∈ selectors t first.name := by
      rw [nextValue_mem_selectors_iff h, Collides, hname]
      simp
    have hnew : [SelectorTest.equals first.name (.int (nextValue t first.name))].filterMap
        (fun test => if test.tests first.name then some test.value else none) = [.int (nextValue t first.name)] := by
      rw [SelectorTest.tests, Bool.and_eq_true] at hself
      simp [SelectorTest.equals, SelectorTest.tests, SelectorTest.isEquality, hself.2]
    -- The one new value is the next, so that it can only repeat a selector.
    rw [hcollides, Option.map_some, Option.toList_some, hnew, List.nodup_append]
    constructor
    · rintro ⟨-, -, hdisjoint⟩ hmem
      exact hdisjoint _ (List.mem_map_of_mem hmem) _ (List.mem_singleton_self _) rfl
    · intro hnot
      refine ⟨hnodup.map hinj, List.nodup_singleton _, fun a ha b hb hab => ?_⟩
      obtain ⟨n, hn, rfl⟩ := List.mem_map.mp ha
      rw [List.mem_singleton] at hb
      rw [hb] at hab
      exact hnot (hinj hab ▸ hn)
  | none =>
    rw [Option.map_none, Option.toList_none, List.filterMap_nil, List.append_nil]
    constructor
    · rintro _ ⟨name, hguarded, -⟩
      rw [hname] at hguarded
      cases hguarded
    · intro _
      exact hnodup.map hinj

/-- In document order, the chain at each head of a tree with distinct selectors tests its variable for distinct values
after both passes, if and only if it does not collide. -/
theorem nodup_usedValues_iff (ht : t.HasDistinctFields) (hint : t.HasIntegerLiterals) (hlit : t.HasPlainLiterals) :
    List.Forall₂ (fun before after => ∀ first, SelectorTest.ofConditional? before.node = some first →
        (selectors before.node first.name).Nodup →
          ((usedValues after.node first.name).Nodup ↔ ¬Collides before.node))
      (DepthIndex.heads t) (DepthIndex.heads (ofTree t true).tree) := by
  have hheads : List.Forall₂ (fun before after => head true before.node = after.node)
      (DepthIndex.heads t) (DepthIndex.heads (ofTree t true).tree) := by
    have heq : List.Forall₂ Eq ((DepthIndex.heads t).map fun v => head true v.node)
        ((DepthIndex.heads (ofTree t true).tree).map Visit.node) := by
      rw [List.forall₂_eq_eq_eq]
      exact (heads_ofTree ht hlit true).symm
    exact List.forall₂_map_right_iff.mp (List.forall₂_map_left_iff.mp heq)
  rw [List.forall₂_iff_zip] at hheads ⊢
  refine ⟨hheads.1, fun {before after} hzip first hfirst hnodup => ?_⟩
  obtain ⟨hwalk, hcond, -⟩ := DepthIndex.mem_heads_iff.mp (List.of_mem_zip hzip).1
  rw [← hheads.2 hzip]
  exact nodup_usedValues_head_iff (hint.of_mem_nodes (List.mem_map_of_mem hwalk)).hasIntegerTests hcond hfirst hnodup

/-- The script `if (s === 0) { a(); } else if (s < 2) { b(); } else { c(); }`. -/
def collidingDispatch : Tree :=
  scriptOf [.ifThen (SelectorTest.equals (.text "s") (.int 0)).toTree (blockOf [callOf "a"])
    (.ifThen (SelectorTest.toTree ⟨.text "s", SelectorTest.lessThan, .int 2⟩) (blockOf [callOf "b"])
      (blockOf [callOf "c"]))]

theorem collidingDispatch_collides :
    collidingDispatch.HasDistinctFields ∧ collidingDispatch.HasIntegerLiterals ∧ collidingDispatch.HasPlainLiterals ∧
      ∃ v ∈ DepthIndex.heads collidingDispatch, Collides v.node := by
  have hfields : collidingDispatch.HasDistinctFields := by decide +kernel
  have hint : collidingDispatch.HasIntegerLiterals := by decide +kernel
  have hlit : collidingDispatch.HasPlainLiterals := by decide +kernel
  have hkept := (nodup_usedValues_iff hfields hint hlit).get (i := 0) (by decide +kernel) (by decide +kernel)
  refine ⟨hfields, hint, hlit, _, List.get_mem _ ⟨0, by decide +kernel⟩, ?_⟩
  have hiff := hkept (.equals (.text "s") (.int 0)) (by decide +kernel) (by decide +kernel)
  by_contra hnot
  exact absurd (hiff.mpr hnot) (by decide +kernel)

/-- The selectors of the chain are 0 and 1; afterwards it tests its variable for 0, 1 and 1. -/
theorem collidingDispatch_repeats :
    (DepthIndex.heads collidingDispatch).map (fun v => selectors v.node (.text "s")) = [[0, 1]] ∧
      (DepthIndex.heads (ofTree collidingDispatch true).tree).map (fun v => usedValues v.node (.text "s")) =
        [[.int 0, .int 1, .int 1]] := by
  decide +kernel

end Normalized
end Deflatten
