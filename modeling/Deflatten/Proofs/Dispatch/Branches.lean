import Deflatten.Proofs.Dispatch.Suffixes
/-!
# Collected branches

What is collected from a tree comes from its branches. `BlockCollector.collected` lists them in the order in which they are
collected, each with the start from which its chain is taken, the path to its block and what is collected of it. Whatever
a collection gives, its blocks are those of the branches (`BlockCollector.map_block_collected`); no branch comes twice, and
the code of each is that of the block at its path (`BlockCollector.exists_block_of_mem_collected`).
-/

namespace Deflatten

open ElseGuard (consequentStep)

namespace BlockCollector

open Deflatten.Tree

variable {name : String} {variableName : Option String} {t : Tree} {q : TreePath × Tree}

/-- A branch that is collected: the path to the start from which its chain is taken, the path to its block, and what is
collected of it. -/
structure Branch where
  start : TreePath
  path : TreePath
  block : LeafBlock
  deriving DecidableEq

/-- The path to the `if` statement that a branch belongs to. -/
def Branch.owner (x : Branch) : TreePath := x.path.dropLast

/-- The branches that are collected from the chain at a start. -/
def collectedFrom (name : String) (q : TreePath × Tree) : List Branch :=
  (chainBranches name q).map fun x => ⟨q.1, x.1, x.2⟩

/-- The branches that are collected from a tree. Without a variable there are none. -/
def collected (variableName : Option String) (t : Tree) : List Branch :=
  match variableName with
  | none => []
  | some name => if name = "" then [] else t.starts.flatMap (collectedFrom name)

theorem mem_collected_iff {x : Branch} :
    x ∈ collected variableName t ↔
      ∃ name, variableName = some name ∧ name ≠ "" ∧ ∃ q ∈ t.starts, x ∈ collectedFrom name q := by
  cases variableName with
  | none => simp [collected]
  | some name =>
    rw [collected]
    by_cases hname : name = "" <;> simp [hname]

/-- From a tree whose branches can be written something is collected. -/
theorem exists_collect (hname : name ≠ "") (h : IsPrintable name t) (dropped : Nat) :
    ∃ table c', collect ⟨some name, dropped⟩ t = (.ok table, c') := by
  obtain ⟨s, hvisits⟩ := exists_reaches_places h (List.Subset.refl _) ⟨{}, dropped, []⟩
  exact ⟨_, _, collect_of_reaches hname hvisits⟩

/-- Whatever the variable is, a collection succeeds where all can be written. -/
theorem isOk_collect {c : BlockCollector} (h : ∀ name, c.variableName = some name → IsPrintable name t) :
    (collect c t).1.isOk := by
  by_cases hnothing : c.variableName = none ∨ c.variableName = some ""
  · rw [collect_of_nothing hnothing]
    rfl
  · obtain ⟨name, hname, hne⟩ := exists_name_of_not_nothing hnothing
    obtain ⟨table, c', hcollect⟩ := exists_collect hne (h name hname) c.dropped
    rw [← hname] at hcollect
    rw [show collect c t = (.ok table, c') from hcollect]
    rfl

/-- The blocks that are collected from a tree are those of its branches, in this order. -/
theorem map_block_collected (ht : t.HasDistinctFields) {c c' : BlockCollector} {table : BlockTable}
    (h : collect c t = (.ok table, c')) : (collected c.variableName t).map Branch.block = table.blocks := by
  have hempty : c.variableName = none ∨ c.variableName = some "" → table.blocks = [] := fun hnothing => by
    rw [collect_of_nothing hnothing] at h
    rw [← Except.ok.inj (Prod.mk.inj h).1]
  cases hname : c.variableName with
  | none => exact (hempty (.inl hname)).symm
  | some name =>
    rw [collected]
    split
    · rename_i hblank
      exact (hempty (.inr (hblank ▸ hname))).symm
    · rename_i hne
      rw [blocks_of_collect ht hname hne h, List.map_flatMap]
      refine List.flatMap_congr fun q _ => ?_
      rw [collectedFrom, List.map_map]
      exact map_snd_chainBranches name q

/-- No branch comes twice. -/
theorem nodup_map_path_collected (ht : t.HasDistinctFields) (variableName : Option String) :
    ((collected variableName t).map Branch.path).Nodup := by
  cases variableName with
  | none => exact List.nodup_nil
  | some name =>
    rw [collected]
    split
    · exact List.nodup_nil
    · have hpaths : ∀ q : TreePath × Tree, (collectedFrom name q).map Branch.path = (chainBranches name q).map Prod.fst :=
        fun q => by rw [collectedFrom, List.map_map]; rfl
      rw [List.map_flatMap, List.flatMap_congr fun q _ => hpaths q, ← List.map_flatMap]
      exact nodup_paths_branches ht name

/-! ## Where a branch stands -/

/-- How a branch stands in the chain at a place: its block is the consequent of a member, or ends the chain. -/
inductive Branch.StandsIn (name : String) (q : TreePath × Tree) : Branch → Prop
  | member {k : Nat} {u : Tree} {b : LeafBlock} (hmember : q.2.chain[k]? = some u)
      (hblock : leafBlock? name (SelectorTest.ofConditional? u, u.get "consequent") = some b) :
      StandsIn name q ⟨q.1, q.1 ++ chainPath k ++ [consequentStep], b⟩
  | rest {k : Nat} {b : LeafBlock} (hlength : q.2.chain.length = k + 1) (hblock : elseBlock? name q.2 = some b) :
      StandsIn name q ⟨q.1, q.1 ++ chainPath k ++ [alternateStep], b⟩

theorem standsIn_of_mem_collectedFrom {x : Branch} (h : x ∈ collectedFrom name q) : x.StandsIn name q := by
  obtain ⟨⟨p, b⟩, hx, rfl⟩ := List.mem_map.mp h
  rw [chainBranches] at hx
  rcases List.mem_append.mp hx with hmem | hmem
  · obtain ⟨m, hm, hblock⟩ := List.mem_filterMap.mp hmem
    obtain ⟨b, hleaf, heq⟩ := Option.map_eq_some_iff.mp hblock
    obtain ⟨k, hk, hpath⟩ := mem_memberPlaces_iff.mp hm
    obtain ⟨rfl, rfl⟩ := Prod.mk.inj heq
    rw [hpath]
    exact .member hk hleaf
  · obtain ⟨b, helse, heq⟩ := Option.map_eq_some_iff.mp (Option.mem_toList.mp hmem)
    obtain ⟨rfl, rfl⟩ := Prod.mk.inj heq
    obtain ⟨k, hk⟩ := Nat.exists_eq_succ_of_ne_zero (Nat.ne_of_gt (length_chain_pos_of_elseBlock? helse))
    rw [hk, ← chainPath_snoc, ← List.append_assoc]
    exact .rest hk helse

/-- A branch belongs to a member of the chain that is taken from its start on. -/
theorem Branch.StandsIn.exists_owner {x : Branch} (h : x.StandsIn name q) :
    x.start = q.1 ∧ ∃ k < q.2.chain.length, ∃ step, x.owner = q.1 ++ chainPath k ∧ x.path = x.owner ++ [step] := by
  cases h with
  | member hmember hblock =>
    obtain ⟨hk, -⟩ := List.getElem?_eq_some_iff.mp hmember
    exact ⟨rfl, _, hk, _, List.dropLast_concat, by rw [owner, List.dropLast_concat]⟩
  | rest hlength hblock =>
    exact ⟨rfl, _, by omega, _, List.dropLast_concat, by rw [owner, List.dropLast_concat]⟩

/-! ## Blocks at their paths -/

/-- A block that comes from printing statements holds their text. -/
theorem printed_of_eq_some {condition : String} {value : Scalar} {body : List Tree} {b : LeafBlock}
    (h : (match Script.printStatements body with
      | .ok code => if code.isEmpty then none else some (⟨condition, value, code⟩ : LeafBlock)
      | .error _ => none) = some b) : b.value = value ∧ Script.printStatements body = .ok b.code := by
  cases hprinted : Script.printStatements body with
  | error e =>
    rw [hprinted] at h
    cases h
  | ok code =>
    rw [hprinted] at h
    obtain ⟨-, hsome⟩ := Option.ite_none_left_eq_some.mp h
    obtain rfl := Option.some.inj hsome
    exact ⟨rfl, rfl⟩

theorem exists_printed_of_leafBlock? {arm : Option SelectorTest × Tree} {b : LeafBlock} (h : leafBlock? name arm = some b) :
    b.isElse = false ∧ ∃ body, arm.2.blockBody? = some body ∧ Script.printStatements body = .ok b.code := by
  obtain ⟨test, -, hcode⟩ := Option.bind_eq_some_iff.mp h
  cases hbody : arm.2.blockBody? with
  | none =>
    -- What is no block is taken for an empty one, which has no code.
    rw [hbody] at hcode
    cases hcode
  | some body =>
    rw [hbody] at hcode
    obtain ⟨hvalue, hprinted⟩ := printed_of_eq_some hcode
    exact ⟨by rw [LeafBlock.isElse, hvalue]; rfl, body, rfl, hprinted⟩

theorem exists_printed_of_elseBlock? {b : LeafBlock} (h : elseBlock? name t = some b) :
    b.isElse ∧ ∃ body, t.finalElse.blockBody? = some body ∧ Script.printStatements body = .ok b.code := by
  obtain ⟨-, hsome⟩ := Option.ite_none_right_eq_some.mp h
  obtain ⟨body, hbody, hcode⟩ := Option.bind_eq_some_iff.mp hsome
  obtain ⟨hvalue, hprinted⟩ := printed_of_eq_some hcode
  exact ⟨by rw [LeafBlock.isElse, hvalue]; exact beq_self_eq_true _, body, hbody, hprinted⟩

theorem isNode_of_blockBody? {body : List Tree} (h : t.blockBody? = some body) : t.isNode := by
  rw [blockBody?] at h
  split at h
  · rename_i hblock
    exact isNode_of_hasTag hblock
  · cases h

theorem leads_get {p : TreePath} {u : Tree} {field : String} (h : t.Leads p u) (hcond : u.isConditional)
    (hnote : isNote field = false) (hnode : (u.get field).isNode) : t.Leads (p ++ [⟨field, none⟩]) (u.get field) :=
  h.append (.child (get_mem_children (isNode_of_isConditional hcond) hnote hnode) (.here _))

/-- The code of a branch is that of the block at its path. -/
theorem exists_block_of_mem_collected {x : Branch} (h : x ∈ collected variableName t) :
    ∃ u body, t.Leads x.path u ∧ u.blockBody? = some body ∧ Script.printStatements body = .ok x.block.code := by
  obtain ⟨name, -, -, q, hq, hx⟩ := mem_collected_iff.mp h
  cases standsIn_of_mem_collectedFrom hx with
  | member hmember hblock =>
    obtain ⟨-, body, hbody, hprinted⟩ := exists_printed_of_leafBlock? hblock
    obtain ⟨hlead, hcond⟩ := leads_of_mem_starts hq hmember
    exact ⟨_, body, leads_get hlead hcond rfl (isNode_of_blockBody? hbody), hbody, hprinted⟩
  | rest hlength hblock =>
    obtain ⟨-, body, hbody, hprinted⟩ := exists_printed_of_elseBlock? hblock
    have hlast : q.2.chain.getLast? = some q.2.chainTail := by
      have hne : q.2.chain ≠ [] := List.ne_nil_of_length_eq_add_one hlength
      rw [chainTail, List.getLast?_eq_some_getLast hne, Option.getD_some]
    rw [List.getLast?_eq_getElem?, hlength, Nat.add_sub_cancel] at hlast
    obtain ⟨hlead, hcond⟩ := leads_of_mem_starts hq hlast
    exact ⟨_, body, leads_get hlead hcond rfl (isNode_of_blockBody? hbody), hbody, hprinted⟩

end BlockCollector
end Deflatten
