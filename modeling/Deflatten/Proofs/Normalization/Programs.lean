import Deflatten.Proofs.Normalization.Halting
import Deflatten.Proofs.Tree.Programs
/-!
# Normalizing a program

The passes go from depth to depth through a whole program, yet each statement is normalized as if it stood alone
(`Normalized.tree_programOf`), the counts of a program are the sums of those of its parts
(`Normalized.metrics_programOf_append`), and the passes run to their end if they do so on each part
(`Normalized.halted?_programOf_append`).
-/

namespace Deflatten

attribute [ext] Metrics

variable {sourceType : String} {xs ys ts : List Tree}

namespace Tree

theorem headNodes_programOf : (programOf sourceType ts).headNodes false =
    (ts.filter isNode).flatMap fun u => u.headNodes false := by
  rw [headNodes_eq, isConditional_programOf, Bool.false_and, if_neg Bool.false_ne_true, List.nil_append,
    ← flatMap_children_programOf]
  exact List.flatMap_congr fun c _ => by rw [Bool.and_false]

theorem headNodes_programOf_append : (programOf sourceType (xs ++ ys)).headNodes false =
    (programOf sourceType xs).headNodes false ++ (programOf sourceType ys).headNodes false := by
  rw [headNodes_programOf, List.filter_append, List.flatMap_append, headNodes_programOf, headNodes_programOf]

end Tree

open Deflatten.Tree

namespace ElseGuard

theorem guarded_programOf (own : Option SelectorTest) (ht : (programOf sourceType ts).HasDistinctFields) :
    guarded own (programOf sourceType ts) =
      programOf sourceType (ts.map fun u => if u.isNode then guarded (guardTest? u) u else u) := by
  have hchild : ∀ j u, guardedChild own (programOf sourceType ts) ⟨"body", some j⟩ u = guarded (guardTest? u) u := by
    intro j u
    rw [guardedChild, childGuard, continues_item, if_neg Bool.false_ne_true, if_neg Bool.false_ne_true,
      isConditional_programOf, Bool.false_and, if_neg Bool.false_ne_true]
  rw [guarded_eq own ht.self, ← mapItems_eq_map_ite hchild 0]
  rfl

end ElseGuard

namespace RangeTest

theorem lower_programOf : lower (programOf sourceType ts) =
    programOf sourceType (ts.map fun u => if u.isNode then lower u else u) := by
  have hnone : lowered? (programOf sourceType ts) = none := lowered?_of_not_binary rfl
  have hitems : mapItems (fun _ c => lower c) "body" 0 ts = ts.map fun u => if u.isNode then lower u else u :=
    mapItems_eq_map_ite (fun _ _ => rfl) 0 ts
  rw [lower_eq_mapChildren rfl hnone, ← hitems]
  rfl

theorem count_programOf : count (programOf sourceType ts) = countItems ts := rfl

theorem countItems_append (xs ys : List Tree) : countItems (xs ++ ys) = countItems xs + countItems ys := by
  induction xs with
  | nil => exact (Nat.zero_add _).symm
  | cons u us ih => rw [List.cons_append, countItems, countItems, ih, Nat.add_assoc]

end RangeTest

namespace Normalized

open ElseGuard

variable {lowerRanges : Bool}

/-- What normalization makes of a statement of a program. -/
def statement (lowerRanges : Bool) (u : Tree) : Tree := if u.isNode then head lowerRanges u else u

/-- Each statement of a program is normalized as if it stood alone. -/
theorem tree_programOf (ht : (programOf sourceType ts).HasDistinctFields) :
    (ofTree (programOf sourceType ts) lowerRanges).tree = programOf sourceType (ts.map (statement lowerRanges)) := by
  rw [tree_ofTree ht, head, guarded_programOf _ ht]
  cases lowerRanges with
  | false => rfl
  | true =>
    rw [if_pos rfl, RangeTest.lower_programOf, List.map_map]
    congr 1
    refine List.map_congr_left fun u _ => ?_
    rw [Function.comp_apply, statement]
    cases hnode : u.isNode with
    | false => simp [hnode]
    | true => simp [hnode, head]

/-- The counts of a normalization, read off the heads and the range tests. -/
theorem metrics_ofTree {t : Tree} (ht : t.HasDistinctFields) (lowerRanges : Bool) :
    let n := ofTree t lowerRanges
    let heads := t.headNodes false
    let guards := heads.countP fun u => (guardTest? u).isSome
    n.metrics.chainsSeen = heads.length ∧ n.metrics.guardedElses = guards ∧
      n.metrics.loweredRanges = (if lowerRanges then RangeTest.count (ElseGuard.run t).1 else 0 : Nat) ∧
      n.metrics.skippedChains = heads.length - guards := by
  have hchains : (ElseGuard.run t).2.length = (t.headNodes false).length := by
    rw [run_snd ht, List.length_map, (DepthIndex.outerFirst_perm t).length_eq, ← heads_eq_headNodes, List.length_map]
  cases lowerRanges <;> simp [ofTree, metrics, ElseGuard.metrics, hchains, guardedCount_run ht]

/-- The counts of a program are the sums of those of its parts. -/
theorem metrics_programOf_append (ht : (programOf sourceType (xs ++ ys)).HasDistinctFields) :
    (ofTree (programOf sourceType (xs ++ ys)) lowerRanges).metrics =
      (ofTree (programOf sourceType xs) lowerRanges).metrics + (ofTree (programOf sourceType ys) lowerRanges).metrics := by
  obtain ⟨hx, hy⟩ := hasDistinctFields_programOf_append_iff.mp ht
  have hranges : RangeTest.count (ElseGuard.run (programOf sourceType (xs ++ ys))).1 =
      RangeTest.count (ElseGuard.run (programOf sourceType xs)).1 +
        RangeTest.count (ElseGuard.run (programOf sourceType ys)).1 := by
    rw [run_fst_eq_guarded ht, run_fst_eq_guarded hx, run_fst_eq_guarded hy, guarded_programOf _ ht,
      guarded_programOf _ hx, guarded_programOf _ hy, List.map_append, RangeTest.count_programOf,
      RangeTest.countItems_append, RangeTest.count_programOf, RangeTest.count_programOf]
  obtain ⟨hchains, hguards, hlowered, hskipped⟩ := metrics_ofTree ht lowerRanges
  obtain ⟨hchainsx, hguardsx, hloweredx, hskippedx⟩ := metrics_ofTree hx lowerRanges
  obtain ⟨hchainsy, hguardsy, hloweredy, hskippedy⟩ := metrics_ofTree hy lowerRanges
  rw [headNodes_programOf_append, List.length_append] at hchains
  rw [headNodes_programOf_append, List.countP_append] at hguards
  rw [headNodes_programOf_append, List.length_append, List.countP_append] at hskipped
  rw [hranges] at hlowered
  refine Metrics.ext ?_ ?_ ?_ ?_
  · rw [Metrics.add_chainsSeen]; omega
  · rw [Metrics.add_guardedElses]; omega
  · rw [Metrics.add_loweredRanges]; split at hlowered <;> simp_all
  · rw [Metrics.add_skippedChains]; omega

/-- The passes run to their end on a program if and only if they do so on each of its parts. -/
theorem halted?_programOf_append (ht : (programOf sourceType (xs ++ ys)).HasDistinctFields) :
    halted? (programOf sourceType (xs ++ ys)) lowerRanges = none ↔
      halted? (programOf sourceType xs) lowerRanges = none ∧ halted? (programOf sourceType ys) lowerRanges = none := by
  obtain ⟨hx, hy⟩ := hasDistinctFields_programOf_append_iff.mp ht
  -- A program is no comparison, so that only the nodes of its statements matter.
  have hroot : ∀ ts, RangeTest.lowered? (programOf sourceType ts) = none :=
    fun ts => RangeTest.lowered?_of_not_binary rfl
  rw [halted?_eq_none_iff ht, halted?_eq_none_iff hx, halted?_eq_none_iff hy, headNodes_programOf_append]
  simp only [nodes_programOf, List.forall_mem_cons, hroot, reduceCtorEq, false_implies, implies_true, true_and,
    List.filter_append, List.flatMap_append, List.forall_mem_append]
  exact ⟨fun h => ⟨⟨h.1.1, fun hlower => (h.2 hlower).1⟩, h.1.2, fun hlower => (h.2 hlower).2⟩,
    fun h => ⟨⟨h.1.1, h.2.1⟩, fun hlower => ⟨h.1.2 hlower, h.2.2 hlower⟩⟩⟩

end Normalized
end Deflatten
