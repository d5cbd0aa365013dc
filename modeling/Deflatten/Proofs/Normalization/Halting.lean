import Deflatten.Normalization.Halting
import Deflatten.Proofs.Normalization.Settled
/-!
# Passes that run to their end

A pass runs to its end if and only if every test that it writes has few enough digits. Guarding writes the tests of the
heads, lowering the equality tests for the range tests, and each of these can be read off the tree before either pass
(`Normalized.halted?_eq_none_iff`).
-/

namespace Deflatten

open Deflatten.Tree

variable {t : Tree}

namespace ElseGuard

theorem halted?_eq_none_iff (ht : t.HasDistinctFields) :
    halted? t = none ↔ ∀ u ∈ t.headNodes false, ∀ test, guardTest? u = some test → test.value.isWritable := by
  have hwritable : ∀ u : Tree, u.isConditional →
      ((outcome u).isWritable ↔ ∀ test, guardTest? u = some test → test.value.isWritable) := by
    intro u hcond
    rw [guardTest?, if_pos hcond]
    cases outcome u <;> simp [Outcome.isWritable, Outcome.test?]
  have hperm : ∀ v, v ∈ (DepthIndex.ofTree t).outerFirst ↔ v ∈ DepthIndex.heads t :=
    fun v => (DepthIndex.outerFirst_perm t).mem_iff
  rw [halted?, Option.map_eq_none_iff, List.findIdx?_eq_none_iff, run_snd ht, ← heads_eq_headNodes]
  simp only [List.forall_mem_map, hperm, Bool.not_eq_false']
  exact forall₂_congr fun v hv => hwritable v.node (DepthIndex.mem_heads_iff.mp hv).2.1

end ElseGuard

namespace RangeTest

theorem halted?_eq_none_iff :
    halted? t = none ↔ ∀ u ∈ t.nodes, ∀ test, lowered? u = some test → test.value.isWritable := by
  rw [halted?, ite_eq_left_iff]
  simp only [reduceCtorEq, imp_false, not_not, List.all_eq_true, replacements, List.mem_filterMap, Option.map_eq_some_iff]
  rw [nodes, List.forall_mem_map]
  constructor
  · intro h v hv test htest
    exact h (v.path, test) ⟨v, hv, test, htest, rfl⟩
  · rintro h r ⟨v, hv, test, htest, rfl⟩
    exact h v hv test htest

end RangeTest

/-- Both passes run to their end if and only if the tests that they write, read off the tree as it is, have few enough
digits. -/
theorem Normalized.halted?_eq_none_iff (ht : t.HasDistinctFields) (lowerRanges : Bool) :
    halted? t lowerRanges = none ↔
      (∀ u ∈ t.headNodes false, ∀ test, ElseGuard.guardTest? u = some test → test.value.isWritable) ∧
        (lowerRanges → ∀ u ∈ t.nodes, ∀ test, RangeTest.lowered? u = some test → test.value.isWritable) := by
  -- Guarding leaves the range tests that are lowered as they are.
  have hranges : RangeTest.halted? (ElseGuard.run t).1 = none ↔
      ∀ u ∈ t.nodes, ∀ test, RangeTest.lowered? u = some test → test.value.isWritable := by
    have hread : ∀ us : List Tree, (∀ u ∈ us, ∀ test, RangeTest.lowered? u = some test → test.value.isWritable) ↔
        ∀ test ∈ us.filterMap RangeTest.lowered?, test.value.isWritable := by
      intro us
      simp only [List.mem_filterMap]
      exact ⟨fun h test ⟨u, hu, htest⟩ => h u hu test htest, fun h u hu test htest => h test ⟨u, hu, htest⟩⟩
    rw [RangeTest.halted?_eq_none_iff, hread, hread, ElseGuard.filterMap_lowered?_run ht]
  rw [← ElseGuard.halted?_eq_none_iff ht, halted?]
  cases ElseGuard.halted? t with
  | some halted => simp
  | none => cases lowerRanges <;> simp [hranges]

end Deflatten
