import Deflatten.Proofs.Dispatch.Branches
import Deflatten.Proofs.Dispatch.Normalized
import Deflatten.Proofs.Normalization.Inverse
import Deflatten.Proofs.Normalization.Settled
/-!
# Blocks of plain `else` parts

Guarding leaves a plain `else` at the end of a chain only if the head of the chain is no equality test. So what is
collected with the tag `else` from a normalized tree stands at the end of a chain whose head the pass did not recognise,
and some member of this chain tests the selector (`Normalized.else_blocks`).
-/

namespace Deflatten

open Deflatten.Tree

variable {t : Tree}

theorem RangeTest.hasSingleAlternates_lower (ht : t.HasDistinctFields) (hs : t.HasSingleAlternates) :
    (lower t).HasSingleAlternates := by
  intro w hw hcond
  rcases mem_nodes_lower ht hw with ⟨u, hu, rfl⟩ | ⟨n, rfl⟩
  · rw [isConditional_lower] at hcond
    rw [get_lower_of_none (isNode_of_isConditional hcond) (lowered?_of_isConditional hcond) rfl, isNode_lower]
    refine (hs u hu hcond).imp_left fun hnull => ?_
    generalize u.get "alternate" = value at hnull
    cases value with
    | scalar _ => exact hnull
    | _ => cases hnull
  · cases hcond

namespace BlockCollector

variable {name : String} {variableName : Option String} {q : TreePath × Tree}

/-- A branch with the tag `else` is the block at the end of a chain some member of which tests the variable. -/
theorem exists_head_of_isElse (ht : t.HasDistinctFields) (hs : t.HasSingleAlternates) {x : Branch}
    (h : x ∈ collected variableName t) (helse : x.block.isElse) :
    ∃ name, variableName = some name ∧ ∃ head ∈ t.headPlaces false,
      x.path = head.1 ++ chainPath head.2.chain.length ∧
        (∃ body, head.2.finalElse.blockBody? = some body ∧ Script.printStatements body = .ok x.block.code) ∧
        ∃ test ∈ head.2.chainTests, test.tests (.text name) := by
  obtain ⟨name, hname, -, q, hq, hx⟩ := mem_collected_iff.mp h
  refine ⟨name, hname, ?_⟩
  cases standsIn_of_mem_collectedFrom hx with
  | member hmember hblock =>
    rw [(exists_printed_of_leafBlock? hblock).1] at helse
    cases helse
  | @rest k _ hlength hblock =>
    -- The start is a member of the chain at some head, and so is every member after it.
    obtain ⟨head, hhead, j, hj, hpath⟩ := exists_head_of_mem_places ht hs (mem_starts_iff.mp hq).1
    obtain ⟨-, body, hbody, hprinted⟩ := exists_printed_of_elseBlock? hblock
    obtain ⟨hany, -⟩ := Option.ite_none_right_eq_some.mp hblock
    obtain ⟨member, hmember, hsome⟩ := List.any_eq_true.mp hany
    obtain ⟨test, htest⟩ := Option.isSome_iff_exists.mp hsome
    obtain ⟨hown, htests⟩ := Option.filter_eq_some_iff.mp htest
    have hmem : test ∈ q.2.chainTests := List.mem_filterMap.mpr ⟨member, hmember, hown⟩
    refine ⟨head, hhead, ?_, ⟨body, ?_, hprinted⟩, test, ?_, htests⟩
    · obtain ⟨hlt, -⟩ := List.getElem?_eq_some_iff.mp hj
      rw [chain_of_getElem? hj, List.length_drop] at hlength
      have hsum : j + (k + 1) = head.2.chain.length := by omega
      rw [hpath, List.append_assoc, List.append_assoc, chainPath_snoc, chainPath_append, hsum]
    · rwa [← finalElse_of_getElem? hj]
    · exact chainTests_subset_of_mem_chain (List.mem_of_getElem? hj) test hmem

end BlockCollector

namespace Normalized

open ElseGuard BlockCollector

variable {lowerRanges : Bool} {variableName : Option String}

theorem hasSingleAlternates_head (ht : t.HasDistinctFields) (hs : t.HasSingleAlternates) :
    (head lowerRanges t).HasSingleAlternates := by
  have hguarded : (guarded (guardTest? t) t).HasSingleAlternates := hasSingleAlternates_guarded ht hs
  rw [head]
  cases lowerRanges with
  | false => exact hguarded
  | true => exact RangeTest.hasSingleAlternates_lower (hasDistinctFields_guarded ht) hguarded

/-- A chain that ends in a block and gets no test has a head that is no equality test of a variable. -/
theorem not_equality_of_guardTest?_eq_none (hcond : t.isConditional) (hblock : t.finalElse.isBlock)
    (hguard : guardTest? t = none) (v : String) (n : Number) :
    SelectorTest.ofConditional? t ≠ some (.equals (.text v) n) := by
  intro hfirst
  have hself : (SelectorTest.equals (.text v) n).tests (.text v) = true := by
    simp [SelectorTest.tests, SelectorTest.equals, SelectorTest.isEquality]
  have hname : guardedName? t = some (.text v) := by
    rw [guardedName?, hcond, hblock, hfirst]
    exact if_pos hself
  have hsome := isSome_guardTest? t
  rw [hguard, hname] at hsome
  cases hsome

/-- A branch is the block at the end of the chain that a head has become, and some member of this chain tests a variable;
before, the chain ended in a block, and its head was no equality test of a variable. -/
structure IsElseOf (name : String) (before after : Visit) (x : Branch) : Prop where
  ended : before.node.finalElse.isBlock
  unrecognised : ∀ v n, SelectorTest.ofConditional? before.node ≠ some (.equals (.text v) n)
  path : x.path = after.path ++ chainPath after.node.chain.length
  code : ∃ body, after.node.finalElse.blockBody? = some body ∧ Script.printStatements body = .ok x.block.code
  tested : ∃ test ∈ after.node.chainTests, test.tests (.text name)

/-- Of each branch with the tag `else`, the head of its chain before and after. -/
theorem exists_isElseOf (h : t.IsScriptTree) (hs : t.HasSingleAlternates) {x : Branch}
    (hx : x ∈ collected variableName (ofTree t lowerRanges).tree) (helse : x.block.isElse) :
    ∃ name, variableName = some name ∧ ∃ (i : Nat) (before after : Visit), (DepthIndex.heads t)[i]? = some before ∧
      (DepthIndex.heads (ofTree t lowerRanges).tree)[i]? = some after ∧ IsElseOf name before after x := by
  have htree : (ofTree t lowerRanges).tree = head lowerRanges t := tree_ofTree h.fields lowerRanges
  have hfields : (ofTree t lowerRanges).tree.HasDistinctFields := htree ▸ hasDistinctFields_head lowerRanges h.fields
  have hsingle : (ofTree t lowerRanges).tree.HasSingleAlternates := htree ▸ hasSingleAlternates_head h.fields hs
  obtain ⟨name, hname, place, hplace, hpath, ⟨body, hbody, hprinted⟩, htest⟩ :=
    exists_head_of_isElse hfields hsingle hx helse
  rw [← heads_eq_headPlaces] at hplace
  obtain ⟨after, hafter, rfl⟩ := List.mem_map.mp hplace
  obtain ⟨i, hi⟩ := List.mem_iff_getElem?.mp hafter
  -- The head is what both passes make of the head of the tree that has its number.
  obtain ⟨before, hbefore, hnode⟩ : ∃ before, (DepthIndex.heads t)[i]? = some before ∧
      head lowerRanges before.node = after.node := by
    have hsame := congrArg (·[i]?) (heads_ofTree h.fields h.literals lowerRanges)
    simp only [List.getElem?_map, hi, Option.map_some] at hsame
    exact Option.map_eq_some_iff.mp hsame.symm
  have hcond : before.node.isConditional := (DepthIndex.mem_heads_iff.mp (List.mem_of_getElem? hbefore)).2.1
  have hblock : (head lowerRanges before.node).finalElse.isBlock := by
    rw [hnode]
    by_contra hnot
    rw [blockBody?, if_neg hnot] at hbody
    cases hbody
  rw [isBlock_finalElse_head lowerRanges hcond, Bool.and_eq_true, Option.isNone_iff_eq_none] at hblock
  obtain ⟨hended, hguard⟩ := hblock
  exact ⟨name, hname, i, before, after, hbefore, hi, hended,
    not_equality_of_guardTest?_eq_none hcond hended hguard, hpath, ⟨body, hbody, hprinted⟩, htest⟩

/-- The blocks that are collected from a normalized tree are those of its branches. Each that has the tag `else` ends a
chain whose head in the tree is no equality test, and a member of this chain tests the selector after normalization. If all
heads of the tree are equality tests, no block has the tag. -/
theorem else_blocks (h : t.IsScriptTree) (hs : t.HasSingleAlternates) {c c' : BlockCollector} {table : BlockTable}
    (hcollect : collect c (ofTree t lowerRanges).tree = (.ok table, c')) :
    table.blocks = (collected c.variableName (ofTree t lowerRanges).tree).map Branch.block ∧
      (∀ x ∈ collected c.variableName (ofTree t lowerRanges).tree, x.block.isElse →
        ∃ name, c.variableName = some name ∧ ∃ (i : Nat) (before after : Visit), (DepthIndex.heads t)[i]? = some before ∧
          (DepthIndex.heads (ofTree t lowerRanges).tree)[i]? = some after ∧ IsElseOf name before after x) ∧
      ((∀ v ∈ DepthIndex.heads t, ∃ name n, SelectorTest.ofConditional? v.node = some (.equals (.text name) n)) →
        ∀ b ∈ table.blocks, b.isElse = false) := by
  have hfields : (ofTree t lowerRanges).tree.HasDistinctFields :=
    tree_ofTree h.fields lowerRanges ▸ hasDistinctFields_head lowerRanges h.fields
  have hblocks := map_block_collected hfields hcollect
  refine ⟨hblocks.symm, fun x => exists_isElseOf h hs, fun hequality b hb => ?_⟩
  rw [← hblocks] at hb
  obtain ⟨x, hx, rfl⟩ := List.mem_map.mp hb
  rw [← Bool.not_eq_true]
  intro helse
  obtain ⟨_, -, _, before, _, hbefore, -, hof⟩ := exists_isElseOf h hs hx helse
  obtain ⟨v, n, hfirst⟩ := hequality before (List.mem_of_getElem? hbefore)
  exact hof.unrecognised v n hfirst

/-- The script `if (s < 2) { a(); } else if (s === 2) { b(); } else { c(); }`. -/
def rangeFirst : Tree :=
  scriptOf [.ifThen (SelectorTest.toTree ⟨.text "s", SelectorTest.lessThan, .int 2⟩) (blockOf [callOf "a"])
    (.ifThen (SelectorTest.equals (.text "s") (.int 2)).toTree (blockOf [callOf "b"]) (blockOf [callOf "c"]))]

/-- The head is a range test, so that the plain `else` stays. -/
theorem rangeFirst_keeps_else :
    rangeFirst.IsScriptTree ∧ rangeFirst.HasSingleAlternates ∧
      ∃ table c', collect ⟨some "s", 0⟩ (ofTree rangeFirst true).tree = (.ok table, c') ∧
        table.blocks.map LeafBlock.value = [.int 1, .int 2, .text "else"] ∧
        ∃ x ∈ collected (some "s") (ofTree rangeFirst true).tree, x.block.isElse ∧
          ∃ before ∈ DepthIndex.heads rangeFirst, ∃ after, IsElseOf "s" before after x := by
  have h : rangeFirst.IsScriptTree := by decide +kernel
  have hs : rangeFirst.HasSingleAlternates := by decide +kernel
  have hprint : IsPrintable "s" (ofTree rangeFirst true).tree := by decide +kernel
  obtain ⟨table, c', hcollect⟩ := exists_collect (by decide) hprint 0
  obtain ⟨hblocks, hbranches, -⟩ := else_blocks h hs hcollect
  obtain ⟨x, hx, helse⟩ : ∃ x ∈ collected (some "s") (ofTree rangeFirst true).tree, x.block.isElse := by decide +kernel
  obtain ⟨name, hname, _, before, after, hbefore, -, hof⟩ := hbranches x hx helse
  cases hname
  refine ⟨h, hs, table, c', hcollect, ?_, x, hx, helse, before, List.mem_of_getElem? hbefore, after, hof⟩
  rw [hblocks]
  decide +kernel

end Normalized
end Deflatten
