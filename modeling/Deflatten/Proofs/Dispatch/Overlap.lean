import Deflatten.Proofs.Dispatch.Branches
/-!
# Blocks in blocks

Where the collector takes a chain from, it looks one level deep into a consequent, and not at all into the branches that
follow. So a block that is collected may hold the start of another chain, whose blocks are then collected too. This is the
only way in which collected blocks overlap (`BlockCollector.overlap_iff`): one of them holds the start of the other. The
reason is that a path to a start does not end inside a branch of the chain that is taken from there, and that the `else`
parts along a chain are no blocks before the chain ends.
-/

namespace Deflatten.BlockCollector

open Deflatten.Tree ElseGuard

variable {name : String} {variableName : Option String} {t : Tree} {q : TreePath × Tree} {x y : Branch} {p : TreePath}

theorem eq_of_path_eq (ht : t.HasDistinctFields) (hx : x ∈ collected variableName t) (hy : y ∈ collected variableName t)
    (h : x.path = y.path) : x = y :=
  List.inj_on_of_nodup_map (nodup_map_path_collected ht variableName) hx hy h

/-- The start of a branch is a bottom-level `if` statement from which the branch is reached. -/
theorem exists_start_of_mem_collected (h : x ∈ collected variableName t) :
    x.start <+: x.owner ∧ ∃ u, t.Leads x.start u ∧ u.isConditional ∧ u.isBottomLevel := by
  obtain ⟨name, -, -, q, hq, hx⟩ := mem_collected_iff.mp h
  obtain ⟨hplace, hstart⟩ := mem_starts_iff.mp hq
  obtain ⟨hlead, hcond⟩ := mem_places_iff.mp hplace
  obtain ⟨hsame, k, -, -, howner, -⟩ := (standsIn_of_mem_collectedFrom hx).exists_owner
  rw [hsame, howner]
  exact ⟨List.prefix_append .., q.2, hlead, hcond, hstart.isBottomLevel⟩

/-- No start lies in a branch of its own chain. -/
theorem not_prefix_start (h : x ∈ collected variableName t) : ¬x.path <+: x.start := by
  obtain ⟨name, -, -, q, -, hx⟩ := mem_collected_iff.mp h
  obtain ⟨-, k, -, step, -, hpath⟩ := (standsIn_of_mem_collectedFrom hx).exists_owner
  intro hinside
  have hle := (hinside.trans (exists_start_of_mem_collected h).1).length_le
  rw [hpath, List.length_append, List.length_singleton] at hle
  omega

/-- The path to a branch does not lead to an `if` statement. -/
theorem isConditional_eq_false_of_leads (ht : t.HasDistinctFields) (h : x ∈ collected variableName t) {u : Tree}
    (hu : t.Leads x.path u) : u.isConditional = false := by
  obtain ⟨w, body, hw, hbody, -⟩ := exists_block_of_mem_collected h
  obtain rfl : u = w := Option.some.inj ((at?_of_leads ht hu).symm.trans (at?_of_leads ht hw))
  rw [← Bool.not_eq_true]
  intro hcond
  rw [blockBody?, not_isBlock_of_isConditional hcond] at hbody
  cases hbody

/-- No block that is collected lies on the way from a start to a member of its chain. -/
theorem prefix_start_of_prefix_owner (ht : t.HasDistinctFields) (hx : x ∈ collected variableName t)
    (hy : y ∈ collected variableName t) (h : x.path <+: y.owner) : x.path <+: y.start := by
  obtain ⟨name, -, -, r, hr, hyr⟩ := mem_collected_iff.mp hy
  obtain ⟨hstart, k, hk, -, howner, -⟩ := (standsIn_of_mem_collectedFrom hyr).exists_owner
  rw [hstart]
  rw [howner] at h
  rcases List.prefix_or_prefix_of_prefix h (List.prefix_append ..) with hinside | ⟨rest, hrest⟩
  · exact hinside
  · -- Else the path would go along the chain to a member.
    exfalso
    rw [← hrest, List.prefix_append_right_inj, chainPath, List.prefix_replicate_iff] at h
    obtain ⟨hle, hsame⟩ := h
    have hmember : r.2.chain[rest.length]? = some r.2.chain[rest.length] := List.getElem?_eq_getElem (by omega)
    obtain ⟨hlead, hcond⟩ := leads_of_mem_starts hr hmember
    rw [chainPath, ← hsame, hrest] at hlead
    rw [isConditional_eq_false_of_leads ht hx hlead] at hcond
    cases hcond

/-- Of two branches one lies in the block of the other exactly if its start does. -/
theorem prefix_path_iff (ht : t.HasDistinctFields) (hx : x ∈ collected variableName t) (hy : y ∈ collected variableName t)
    (hne : x ≠ y) : x.path <+: y.path ↔ x.path <+: y.start := by
  have howner : y.owner <+: y.path := List.dropLast_prefix _
  constructor
  · rintro ⟨rest, hrest⟩
    refine prefix_start_of_prefix_owner ht hx hy ?_
    -- The paths differ, so what is left of the longer one can lose its last step.
    rw [Branch.owner, ← hrest, List.dropLast_append_of_ne_nil]
    · exact List.prefix_append ..
    · rintro rfl
      rw [List.append_nil] at hrest
      exact hne (eq_of_path_eq ht hx hy hrest)
  · intro h
    exact h.trans ((exists_start_of_mem_collected hy).1.trans howner)

/-- The blocks that are collected are printed from blocks of the tree, each from another one. Two of them overlap exactly if
one holds the start from which the chain of the other is taken, and then the one holds all of the other. -/
theorem overlap_iff (ht : t.HasDistinctFields) {c c' : BlockCollector} {table : BlockTable}
    (h : collect c t = (.ok table, c')) :
    (collected c.variableName t).map Branch.block = table.blocks ∧
      ((collected c.variableName t).map Branch.path).Nodup ∧
      (∀ x ∈ collected c.variableName t,
        (∃ u body, t.Leads x.path u ∧ u.blockBody? = some body ∧ Script.printStatements body = .ok x.block.code) ∧
          ∃ u, t.Leads x.start u ∧ u.isConditional ∧ u.isBottomLevel) ∧
      ∀ x ∈ collected c.variableName t, ∀ y ∈ collected c.variableName t, x ≠ y →
        (x.path <+: y.path ↔ x.path <+: y.start) ∧
          ((∃ p, x.path <+: p ∧ y.path <+: p) ↔ x.path <+: y.start ∨ y.path <+: x.start) ∧
          (x.start = y.start → ¬∃ p, x.path <+: p ∧ y.path <+: p) := by
  refine ⟨map_block_collected ht h, nodup_map_path_collected ht _,
    fun x hx => ⟨exists_block_of_mem_collected hx, (exists_start_of_mem_collected hx).2⟩, fun x hx y hy hne => ?_⟩
  have hboth : (∃ p, x.path <+: p ∧ y.path <+: p) ↔ x.path <+: y.start ∨ y.path <+: x.start := by
    rw [← prefix_path_iff ht hx hy hne, ← prefix_path_iff ht hy hx hne.symm]
    constructor
    · rintro ⟨p, hxp, hyp⟩
      exact List.prefix_or_prefix_of_prefix hxp hyp
    · rintro (h | h)
      · exact ⟨y.path, h, List.prefix_rfl⟩
      · exact ⟨x.path, List.prefix_rfl, h⟩
  refine ⟨prefix_path_iff ht hx hy hne, hboth, fun hsame => ?_⟩
  rw [hboth, not_or]
  exact ⟨hsame ▸ not_prefix_start hx, hsame ▸ not_prefix_start hy⟩

/-- The script `if (s === 0) { while (g) { if (s === 1) { a(); } } }`. -/
def loopInBranch : Tree :=
  scriptOf [.ifThen (SelectorTest.equals (.text "s") (.int 0)).toTree
    (blockOf [loopOf [.ifThen (SelectorTest.equals (.text "s") (.int 1)).toTree (blockOf [callOf "a"]) .null]]) .null]

theorem exists_collect_loopInBranch : ∃ table c', collect ⟨some "s", 0⟩ loopInBranch = (.ok table, c') := by
  have hprint : IsPrintable "s" loopInBranch := by decide +kernel
  exact exists_collect (by decide) hprint 0

/-- The branch of the inner `if` statement lies in that of the outer one, and so does its start. -/
theorem overlap_loopInBranch :
    loopInBranch.HasDistinctFields ∧ ∃ table c', collect ⟨some "s", 0⟩ loopInBranch = (.ok table, c') ∧
      ∃ x ∈ collected (some "s") loopInBranch, ∃ y ∈ collected (some "s") loopInBranch, x ≠ y ∧
        x.path <+: y.start ∧ ∃ p, x.path <+: p ∧ y.path <+: p := by
  have hfields : loopInBranch.HasDistinctFields := by decide +kernel
  obtain ⟨table, c', hcollect⟩ := exists_collect_loopInBranch
  obtain ⟨-, -, -, hoverlap⟩ := overlap_iff hfields hcollect
  refine ⟨hfields, table, c', hcollect, ?_⟩
  have hbranches : ∃ x ∈ collected (some "s") loopInBranch, ∃ y ∈ collected (some "s") loopInBranch, x ≠ y ∧
      x.path <+: y.start := by decide +kernel
  obtain ⟨x, hx, y, hy, hne, hinside⟩ := hbranches
  exact ⟨x, hx, y, hy, hne, hinside, (hoverlap x hx y hy hne).2.1.mpr (.inl hinside)⟩

/-- Every `if` statement of the script stands in an `else` part or among the statements of a script or block, but the
second of the blocks that are collected lies in the first. -/
theorem collect_loopInBranch :
    (∀ v ∈ loopInBranch.conditionals, v.isElseBranch ∨
        v.field = some "body" ∧ v.parent.any fun u => u.isBlock || u.hasTag "Program") ∧
      ∃ table c', collect ⟨some "s", 0⟩ loopInBranch = (.ok table, c') ∧
        table.blocks.map LeafBlock.code = ["while (g) \x7b\n    if (s === 1) \x7b\n        a();\n    \x7d\n\x7d", "a();"] ∧
        ∃ outer inner : TreePath, (collected (some "s") loopInBranch).map Branch.path = [outer, inner] ∧
          outer <+: inner ∧ outer ≠ inner := by
  have hfields : loopInBranch.HasDistinctFields := by decide +kernel
  obtain ⟨table, c', hcollect⟩ := exists_collect_loopInBranch
  refine ⟨by decide +kernel, table, c', hcollect, ?_, [⟨"body", some 0⟩, consequentStep],
    [⟨"body", some 0⟩, consequentStep, ⟨"body", some 0⟩, ⟨"body", none⟩, ⟨"body", some 0⟩, consequentStep],
    by decide +kernel, by decide, by decide⟩
  rw [← map_block_collected hfields hcollect]
  decide +kernel

end Deflatten.BlockCollector
