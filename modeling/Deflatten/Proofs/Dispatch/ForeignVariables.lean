import Deflatten.Proofs.Dispatch.Suffixes
import Deflatten.Proofs.Normalization.TestOrigins
import Deflatten.Replay
/-!
# Variables that are not tested

Normalization makes no test of a variable that the tree does not test, so nothing is collected from a normalized tree for
such a variable, whatever the tree holds, and a replay finds no block at any position
(`Normalized.tests_and_blocks_of_foreign`).
-/

namespace Deflatten

open Deflatten.Tree

/-- Without blocks every position is unmatched. -/
theorem Replay.startingAt_of_nil {table : BlockTable} (h : table.blocks = []) (label : String) (position : Nat)
    (values : List Scalar) : startingAt label table position values = ⟨[], List.range' position values.length⟩ := by
  induction values generalizing position with
  | nil => rfl
  | cons value values ih =>
    have hnone : table.lookup value = none := by rw [BlockTable.lookup, h, List.find?_nil]
    rw [startingAt, hnone, ih, List.length_cons, List.range'_succ]

namespace BlockCollector

variable {name : String} {t : Tree}

/-- Nothing is taken from `if` statements whose chains do not test the variable, and nothing of them is printed. -/
theorem exists_reaches_of_not_tests {qs : List (TreePath × Tree)}
    (h : ∀ q ∈ qs, ∀ test ∈ q.2.chainTests, test.tests (.text name) = false) (s : Progress) :
    ∃ s', Reaches (qs.forM (visitPlace name)) s s' ∧ s'.table.blocks = s.table.blocks := by
  induction qs generalizing s with
  | nil => exact ⟨s, reaches_pure s, rfl⟩
  | cons q qs ih =>
    have hrest := ih fun r hr => h r (List.mem_cons_of_mem _ hr)
    cases hskip : s.covered.contains q.1 || !q.2.isBottomLevel with
    | true =>
      obtain ⟨s', hothers, hblocks⟩ := hrest s
      exact ⟨s', (reaches_visit_skipped hskip).cons hothers, hblocks⟩
    | false =>
      obtain ⟨hchain, hnone⟩ := isCollectable_of_not_tests (h q List.mem_cons_self)
      obtain ⟨s₁, htaken, -, hadded⟩ := hchain.reaches_takeChain s
      rw [hnone, List.append_nil] at hadded
      obtain ⟨s', hothers, hblocks⟩ := hrest _
      exact ⟨s', (reaches_visit_taken hskip htaken).cons hothers, hblocks.trans hadded⟩

/-- From a tree that does not test the variable no block is collected. -/
theorem collect_of_not_tests
    (h : ∀ u ∈ t.nodes, ∀ test, SelectorTest.ofTree? u = some test → test.tests (.text name) = false) (dropped : Nat) :
    ∃ table dropped', collect ⟨some name, dropped⟩ t = (.ok table, ⟨some name, dropped'⟩) ∧ table.blocks = [] := by
  by_cases hname : name = ""
  · subst hname
    exact ⟨{}, dropped, rfl, rfl⟩
  · have hplaces : ∀ q ∈ t.places, ∀ test ∈ q.2.chainTests, test.tests (.text name) = false := by
      intro q hq test htest
      obtain ⟨u, hu, hread⟩ := exists_mem_nodes_of_mem_chainTests htest
      exact h u (nodes_subset (mem_nodes_of_mem_places hq) hu) test hread
    obtain ⟨s, hvisits, hblocks⟩ := exists_reaches_of_not_tests hplaces ⟨{}, dropped, []⟩
    exact ⟨s.table, s.dropped, collect_of_reaches hname hvisits, hblocks⟩

end BlockCollector

namespace Normalized

open BlockCollector

variable {t : Tree}

/-- Every recognised test of a normalized tree is one of the tree, or `v === N - 1` for a range test `v < N` of it, or tests
the variable of a head for the value above the greatest for which its chain does. So for a variable that no recognised test
of the tree is of, the collection from the normalized tree succeeds without a block, and every replay is one of unmatched
positions. -/
theorem tests_and_blocks_of_foreign (ht : t.HasDistinctFields) (hint : t.HasIntegerLiterals) (lowerRanges : Bool) :
    (∀ w ∈ (ofTree t lowerRanges).tree.nodes, ∀ test, SelectorTest.ofTree? w = some test →
        Derives t lowerRanges test) ∧
      ∀ name : String, (∀ u ∈ t.nodes, ∀ test, SelectorTest.ofTree? u = some test → test.name ≠ .text name) →
        ∀ dropped, ∃ table dropped',
          collect ⟨some name, dropped⟩ (ofTree t lowerRanges).tree = (.ok table, ⟨some name, dropped'⟩) ∧
            table.blocks = [] ∧ ∀ (label : String) (order : OrderArray),
              Replay.ofOrder label table order = ⟨[], List.range order.size⟩ := by
  refine ⟨fun w hw test => derives_of_mem_nodes ht hint hw, fun name hforeign dropped => ?_⟩
  have hnot : ∀ u ∈ t.nodes, ∀ test, SelectorTest.ofTree? u = some test →
      test.tests (.text name) = false ∧ (lowerRanges → test.name ≠ .text name) := fun u hu test htest =>
    ⟨SelectorTest.not_tests_of_name_ne (hforeign u hu test htest), fun _ => hforeign u hu test htest⟩
  obtain ⟨table, dropped', hcollect, hblocks⟩ :=
    collect_of_not_tests (fun w hw test => not_tests_of_mem_nodes ht hnot hw) dropped
  refine ⟨table, dropped', hcollect, hblocks, fun label order => ?_⟩
  rw [Replay.ofOrder, Replay.startingAt_of_nil hblocks, List.range_eq_range']
  rfl

/-- The script `if (s === 0) { a(); } else if (s < 3) { b(); } else { c(); } if (x) { d(); } else { e(); }`. -/
def otherSelector : Tree :=
  scriptOf [
    .ifThen (SelectorTest.equals (.text "s") (.int 0)).toTree (blockOf [callOf "a"])
      (.ifThen (SelectorTest.toTree ⟨.text "s", SelectorTest.lessThan, .int 3⟩) (blockOf [callOf "b"])
        (blockOf [callOf "c"])),
    .ifThen (.node Tag.name [("name", .text "x")]) (blockOf [callOf "d"]) (blockOf [callOf "e"])]

/-- The chain on `s` is guarded and lowered; for `x` nothing is collected, though a chain asks for it. -/
theorem otherSelector_collects_nothing :
    otherSelector.HasDistinctFields ∧ otherSelector.HasIntegerLiterals ∧
      (∀ u ∈ otherSelector.nodes, ∀ test, SelectorTest.ofTree? u = some test → test.name ≠ .text "x") ∧
      ∃ table dropped, collect ⟨some "x", 0⟩ (ofTree otherSelector true).tree = (.ok table, ⟨some "x", dropped⟩) ∧
        table.blocks = [] ∧ (Replay.ofOrder "at" table ⟨[.int 1, .int 0], .declaration⟩).unmatched = [0, 1] := by
  have ht : otherSelector.HasDistinctFields := by decide +kernel
  have hint : otherSelector.HasIntegerLiterals := by decide +kernel
  have hforeign : ∀ u ∈ otherSelector.nodes, ∀ test, SelectorTest.ofTree? u = some test → test.name ≠ .text "x" := by
    have hall : ∀ u ∈ otherSelector.nodes, (SelectorTest.ofTree? u).all fun test => test.name != .text "x" := by
      decide +kernel
    intro u hu test htest
    have hname := hall u hu
    rw [htest, Option.all_some, bne_iff_ne] at hname
    exact hname
  obtain ⟨table, dropped, hcollect, hblocks, hreplay⟩ :=
    (tests_and_blocks_of_foreign ht hint true).2 "x" hforeign 0
  exact ⟨ht, hint, hforeign, table, dropped, hcollect, hblocks, by rw [hreplay]; rfl⟩

end Normalized
end Deflatten
