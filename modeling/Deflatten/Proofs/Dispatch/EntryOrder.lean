import Deflatten.Proofs.Dispatch.Branches
import Mathlib.Data.List.Flatten
/-!
# The order of collected blocks

The collector goes through a tree in document order, but from a start it takes a chain to its end before it looks into the
branches that it has passed. So an `if` statement inside a member of a chain is overtaken by the later members
(`Tree.IsOvertaken`), and there is no other exception to document order (`Tree.sublist_takenPaths_iff`). The reason is that
whatever is visited between a start and a member of its chain lies inside the start (`Tree.IsBefore.prefix_of_prefix`). A
value is looked up accordingly (`BlockCollector.blocks_in_order`).
-/

namespace Deflatten

namespace Tree

variable {t : Tree} {p p' : List Step} {q r : List Step × Tree}

/-! ## The order in which `if` statements are taken -/

/-- The paths to the `if` statements that the collector takes, chain by chain. -/
def takenPaths (t : Tree) : List (List Step) := t.starts.flatMap fun q => (memberPlaces q).map Prod.fst

/-- An `if` statement lies inside a member of a chain that is taken from a start on, not in its `else` part, and the other
is a later member. -/
def IsOvertaken (t : Tree) (p p' : List Step) : Prop :=
  ∃ q ∈ t.starts, ∃ k < q.2.chain.length, p' = q.1 ++ chainPath k ∧
    ∃ j < k, ∃ s, s ≠ alternateStep ∧ q.1 ++ chainPath j ++ [s] <+: p

/-- An `if` statement is taken before another: it comes first in the document and is not overtaken, or it overtakes the
other. -/
def IsTakenBefore (t : Tree) (p p' : List Step) : Prop :=
  t.IsBefore p p' ∧ ¬t.IsOvertaken p p' ∨ t.IsBefore p' p ∧ t.IsOvertaken p' p

theorem mem_takenPaths_iff : p ∈ t.takenPaths ↔ IsCoveredFrom t.starts p := by
  rw [takenPaths, List.mem_flatMap]
  exact exists_congr fun q => and_congr_right fun _ => mem_map_fst_memberPlaces_iff

/-- What is taken are `if` statements of the tree. -/
theorem exists_place_of_mem_takenPaths (h : p ∈ t.takenPaths) : ∃ q ∈ t.places, q.1 = p := by
  obtain ⟨q, hq, k, hk, rfl⟩ := mem_takenPaths_iff.mp h
  exact ⟨_, mem_places_along (mem_starts_iff.mp hq).1 (List.getElem?_eq_getElem hk), rfl⟩

theorem nodup_takenPaths (ht : t.HasDistinctFields) : t.takenPaths.Nodup := by
  rw [takenPaths, List.nodup_flatMap]
  refine ⟨fun q _ => nodup_paths_memberPlaces q, (pairwise_starts ht).imp ?_⟩
  intro q r hne p hp hp'
  obtain ⟨j, hj, hpath⟩ := mem_map_fst_memberPlaces_iff.mp hp
  obtain ⟨k, hk, hpath'⟩ := mem_map_fst_memberPlaces_iff.mp hp'
  exact hne j hj k hk (hpath.symm.trans hpath')

/-- Chains are taken in the order of their starts. -/
theorem sublist_takenPaths_of_starts (hqr : [q, r].Sublist t.starts) {j k : Nat} (hj : j < q.2.chain.length)
    (hk : k < r.2.chain.length) : [q.1 ++ chainPath j, r.1 ++ chainPath k].Sublist t.takenPaths := by
  have hfirst : [q.1 ++ chainPath j].Sublist ((memberPlaces q).map Prod.fst) :=
    List.singleton_sublist.mpr (mem_map_fst_memberPlaces_iff.mpr ⟨j, hj, rfl⟩)
  have hsecond : [r.1 ++ chainPath k].Sublist ((memberPlaces r).map Prod.fst) :=
    List.singleton_sublist.mpr (mem_map_fst_memberPlaces_iff.mpr ⟨k, hk, rfl⟩)
  refine List.Sublist.trans ?_ (hqr.flatMap _)
  rw [List.flatMap_cons, List.flatMap_singleton]
  exact hfirst.append hsecond

/-- A chain is taken in chain order. -/
theorem sublist_takenPaths_of_chain (hq : q ∈ t.starts) {j k : Nat} (hjk : j < k) (hk : k < q.2.chain.length) :
    [q.1 ++ chainPath j, q.1 ++ chainPath k].Sublist t.takenPaths := by
  have hindices : [j, k].Sublist (List.range q.2.chain.length) := by
    have hj : j ∈ List.range q.2.chain.length := List.mem_range.mpr (Nat.lt_trans hjk hk)
    rcases sublist_or_sublist_of_mem hj (List.mem_range.mpr hk) (Nat.ne_of_lt hjk) with hsub | hsub
    · exact hsub
    · have hlt : [k, j].Pairwise (· < ·) := List.pairwise_lt_range.sublist hsub
      exact absurd (List.pairwise_pair.mp hlt) (Nat.not_lt.mpr (Nat.le_of_lt hjk))
  refine List.Sublist.trans ?_ ((List.singleton_sublist.mpr hq).flatMap _)
  rw [List.flatMap_singleton, map_fst_memberPlaces]
  exact hindices.map fun k => q.1 ++ chainPath k

theorem isBefore_of_sublist_starts (h : [q, r].Sublist t.starts) : t.IsBefore q.1 r.1 :=
  (h.trans List.filter_sublist).map Prod.fst

/-! ## What is overtaken -/

theorem eq_chainPath_or_leaves (p : List Step) :
    ∃ i, p = chainPath i ∨ ∃ s, s ≠ alternateStep ∧ chainPath i ++ [s] <+: p := by
  induction p with
  | nil => exact ⟨0, .inl rfl⟩
  | cons s p ih =>
    by_cases hs : s = alternateStep
    · subst hs
      obtain ⟨i, rfl | ⟨s, hs, hprefix⟩⟩ := ih
      · exact ⟨i + 1, .inl rfl⟩
      · exact ⟨i + 1, .inr ⟨s, hs, List.cons_prefix_cons.mpr ⟨rfl, hprefix⟩⟩⟩
    · exact ⟨0, .inr ⟨s, hs, List.cons_prefix_cons.mpr ⟨rfl, List.nil_prefix⟩⟩⟩

/-- A path that ends in another step than that into an `else` part does not end along a chain. -/
theorem prefix_of_prefix_along {s : Step} (hs : s ≠ alternateStep) {k : Nat} (h : p ++ [s] <+: p' ++ chainPath k) :
    p ++ [s] <+: p' := by
  induction k with
  | zero => rwa [chainPath, List.replicate_zero, List.append_nil] at h
  | succ k ih =>
    rw [← chainPath_snoc, ← List.append_assoc, List.prefix_concat_iff] at h
    rcases h with heq | h
    · exact absurd (List.singleton_inj.mp (List.append_inj_right' heq rfl)) hs
    · exact ih h

variable (ht : t.HasDistinctFields)

include ht in
/-- What is taken late although it comes first in the document was overtaken. -/
theorem isOvertaken_of_sublist (hbefore : t.IsBefore p p') (h : [p', p].Sublist t.takenPaths) : t.IsOvertaken p p' := by
  have hnot := not_sublist_of_sublist (nodup_takenPaths ht) h
  have hinside := hbefore.not_inside ht
  obtain ⟨q, hq, j, hj, hp⟩ := mem_takenPaths_iff.mp (h.subset (List.mem_cons_of_mem _ List.mem_cons_self))
  obtain ⟨r, hr, k, hk, hp'⟩ := mem_takenPaths_iff.mp (h.subset List.mem_cons_self)
  -- A path along the chain of the later one leads to no member from that one on.
  have hlt : ∀ {i : Nat} {rest : List Step}, p = r.1 ++ chainPath i ++ rest → i < k := by
    intro i rest hpath
    by_contra hge
    rw [← Nat.add_sub_cancel' (Nat.not_lt.mp hge), ← chainPath_append, ← List.append_assoc, ← hp', List.append_assoc] at hpath
    exact hinside (hpath ▸ List.prefix_append ..)
  have hne : q ≠ r := by
    rintro rfl
    have hjk := hlt (hp.trans (List.append_nil _).symm)
    exact hnot (hp ▸ hp' ▸ sublist_takenPaths_of_chain hq hjk hk)
  -- The start of the earlier one comes after that of the later one, and so lies inside it.
  have hstarts : [r, q].Sublist t.starts := by
    rcases sublist_or_sublist_of_mem hq hr hne with hsub | hsub
    · exact absurd (hp ▸ hp' ▸ sublist_takenPaths_of_starts hsub hj hk) hnot
    · exact hsub
  have hrp : t.IsBefore r.1 p := by
    have hrq := isBefore_of_sublist_starts hstarts
    by_cases hsame : q.1 = p
    · exact hsame ▸ hrq
    · have hplace := mem_places_along (mem_starts_iff.mp hq).1 (List.getElem?_eq_getElem hj)
      rw [← hp] at hplace
      exact hrq.trans ht (isBefore_of_inside ht (mem_starts_iff.mp hq).1 hplace hsame (hp ▸ List.prefix_append ..))
  obtain ⟨rest, hrest⟩ := hrp.prefix_of_prefix ht hbefore (hp' ▸ List.prefix_append ..)
  obtain ⟨i, hi | ⟨s, hs, hprefix⟩⟩ := eq_chainPath_or_leaves rest
  · have hpath : p = r.1 ++ chainPath i := by rw [← hrest, hi]
    have hik := hlt (hpath.trans (List.append_nil _).symm)
    exact absurd (eq_of_mem_starts ht hq hr hj (Nat.lt_trans hik hk) (hp.symm.trans hpath)) hne
  · obtain ⟨more, rfl⟩ := hprefix
    have hpath : p = r.1 ++ chainPath i ++ ([s] ++ more) := by rw [← hrest]; simp only [List.append_assoc]
    refine ⟨r, hr, k, hk, hp', i, hlt hpath, s, hs, ?_⟩
    rw [hpath, ← List.append_assoc]
    exact List.prefix_append ..

include ht in
/-- What is overtaken is taken late. -/
theorem IsOvertaken.sublist (h : t.IsOvertaken p p') (hp : p ∈ t.takenPaths) : [p', p].Sublist t.takenPaths := by
  obtain ⟨r, hr, k, hk, rfl, j, hj, s, hs, hprefix⟩ := h
  obtain ⟨q, hq, i, hi, rfl⟩ := mem_takenPaths_iff.mp hp
  -- The start of what is overtaken lies inside the other start.
  have hinside : r.1 ++ chainPath j ++ [s] <+: q.1 := prefix_of_prefix_along hs hprefix
  have hstart : r.1 <+: q.1 := by
    rw [List.append_assoc] at hinside
    exact (List.prefix_append ..).trans hinside
  have hne : r ≠ q := by
    rintro rfl
    have hle := hinside.length_le
    rw [List.length_append, List.length_append, List.length_singleton] at hle
    omega
  refine sublist_takenPaths_of_starts ?_ hk hi
  rcases sublist_or_sublist_of_mem hr hq hne with hsub | hsub
  · exact hsub
  · exact absurd hstart ((isBefore_of_sublist_starts hsub).not_inside ht)

include ht in
/-- The `if` statements are taken in document order, but for those that are overtaken. -/
theorem sublist_takenPaths_iff (hp : p ∈ t.takenPaths) (hp' : p' ∈ t.takenPaths) (hne : p ≠ p') :
    [p, p'].Sublist t.takenPaths ↔ t.IsTakenBefore p p' := by
  constructor
  · intro h
    obtain ⟨q, hq, rfl⟩ := exists_place_of_mem_takenPaths hp
    obtain ⟨r, hr, rfl⟩ := exists_place_of_mem_takenPaths hp'
    rcases sublist_or_sublist_of_mem (List.mem_map_of_mem hq) (List.mem_map_of_mem hr) hne with hbefore | hafter
    · exact .inl ⟨hbefore, fun hover => not_sublist_of_sublist (nodup_takenPaths ht) h (hover.sublist ht hp)⟩
    · exact .inr ⟨hafter, isOvertaken_of_sublist ht hafter h⟩
  · rintro (⟨hbefore, hnot⟩ | ⟨-, hover⟩)
    · rcases sublist_or_sublist_of_mem hp hp' hne with h | h
      · exact h
      · exact absurd (isOvertaken_of_sublist ht hbefore h) hnot
    · exact hover.sublist ht hp'

end Tree

namespace BlockCollector

open Deflatten.Tree ElseGuard

variable {name : String} {variableName : Option String} {t : Tree} {q : TreePath × Tree} {x y : Branch}

/-! ## Blocks for values -/

/-- The branches that are collected for a value of the variable, which are those of members of chains. -/
def valueBranches (variableName : Option String) (t : Tree) : List Branch :=
  (collected variableName t).filter fun x => !x.block.isElse

/-- A branch for a value is that of a member of a chain. -/
theorem exists_member_of_mem_valueBranches (h : x ∈ valueBranches variableName t) :
    ∃ name u, variableName = some name ∧ t.Leads x.owner u ∧ u.isConditional ∧
      leafBlock? name (SelectorTest.ofConditional? u, u.get "consequent") = some x.block := by
  obtain ⟨hx, hvalue⟩ := List.mem_filter.mp h
  obtain ⟨name, hname, -, q, hq, hxq⟩ := mem_collected_iff.mp hx
  cases standsIn_of_mem_collectedFrom hxq with
  | member hmember hblock =>
    obtain ⟨hlead, hcond⟩ := leads_of_mem_starts hq hmember
    rw [Branch.owner, List.dropLast_concat]
    exact ⟨name, _, hname, hlead, hcond, hblock⟩
  | rest _ hblock =>
    rw [(exists_printed_of_elseBlock? hblock).1] at hvalue
    cases hvalue

theorem filterMap_map_sublist {α β γ : Type} (f : α → Option β) (g : α → γ) (l : List α) :
    (l.filterMap fun a => (f a).map fun _ => g a).Sublist (l.map g) := by
  induction l with
  | nil => exact .slnil
  | cons a l ih =>
    rw [List.map_cons, List.filterMap_cons]
    cases f a with
    | none => exact ih.cons _
    | some b => exact ih.cons_cons _

/-- The branches for values in a chain come in chain order. -/
theorem map_owner_collectedFrom_sublist (name : String) (q : TreePath × Tree) :
    (((collectedFrom name q).filter fun x => !x.block.isElse).map Branch.owner).Sublist ((memberPlaces q).map Prod.fst) := by
  have hrest : ((elseBlock? name q.2).map fun b => (q.1 ++ chainPath q.2.chain.length, b)).toList.filter
      (fun x => !x.2.isElse) = [] := by
    cases helse : elseBlock? name q.2 with
    | none => rfl
    | some b =>
      rw [Option.map_some, Option.toList_some, List.filter_singleton, (exists_printed_of_elseBlock? helse).1]
      rfl
  have hpath : ∀ m ∈ memberPlaces q,
      ((leafBlock? name (SelectorTest.ofConditional? m.2, m.2.get "consequent")).map fun b =>
        (m.1 ++ [consequentStep], b)).map (fun x => x.1.dropLast) =
      (leafBlock? name (SelectorTest.ofConditional? m.2, m.2.get "consequent")).map fun _ => m.1 := by
    intro m _
    rw [Option.map_map]
    simp only [Function.comp_def, List.dropLast_concat]
  have hdropLast : (((collectedFrom name q).filter fun x => !x.block.isElse).map Branch.owner) =
      ((chainBranches name q).filter fun x => !x.2.isElse).map fun x => x.1.dropLast := by
    rw [collectedFrom, List.filter_map, List.map_map]
    rfl
  rw [hdropLast, chainBranches, List.filter_append, hrest, List.append_nil]
  refine (List.filter_sublist.map _).trans ?_
  rw [List.map_filterMap, List.filterMap_congr hpath]
  exact filterMap_map_sublist _ Prod.fst _

/-- The branches for values come in the order in which the `if` statements are taken. -/
theorem map_owner_sublist_takenPaths (variableName : Option String) (t : Tree) :
    ((valueBranches variableName t).map Branch.owner).Sublist t.takenPaths := by
  cases variableName with
  | none => exact List.nil_sublist _
  | some name =>
    rw [valueBranches, collected]
    split
    · exact List.nil_sublist _
    · rw [List.filter_flatMap, List.map_flatMap]
      exact List.Sublist.flatMap_right _ fun q _ => map_owner_collectedFrom_sublist name q

theorem nodup_valueBranches (ht : t.HasDistinctFields) (variableName : Option String) :
    (valueBranches variableName t).Nodup :=
  ((nodup_map_path_collected ht variableName).of_map Branch.path).filter _

theorem sublist_valueBranches_iff (ht : t.HasDistinctFields) (hx : x ∈ valueBranches variableName t)
    (hy : y ∈ valueBranches variableName t) (hne : x ≠ y) :
    [x, y].Sublist (valueBranches variableName t) ↔ t.IsTakenBefore x.owner y.owner := by
  have howners := map_owner_sublist_takenPaths variableName t
  have htaken := nodup_takenPaths ht
  have hxtaken := howners.subset (List.mem_map_of_mem hx)
  have hytaken := howners.subset (List.mem_map_of_mem hy)
  have hneowner : x.owner ≠ y.owner := fun heq =>
    hne (List.inj_on_of_nodup_map (htaken.sublist howners) hx hy heq)
  rw [← sublist_takenPaths_iff ht hxtaken hytaken hneowner]
  constructor
  · exact fun h => (h.map Branch.owner).trans howners
  · intro h
    rcases sublist_or_sublist_of_mem hx hy hne with hxy | hyx
    · exact hxy
    · exact absurd ((hyx.map Branch.owner).trans howners) (not_sublist_of_sublist htaken h)

/-- What a value leads to is found among the branches for values. -/
theorem lookup_eq (ht : t.HasDistinctFields) {c c' : BlockCollector} {table : BlockTable}
    (h : collect c t = (.ok table, c')) (value : Scalar) :
    table.lookup value = ((valueBranches c.variableName t).find? fun x => x.block.selectedBy value).map Branch.block := by
  rw [BlockTable.lookup, ← map_block_collected ht h, List.find?_map, valueBranches, List.find?_filter]
  congr 2
  funext x
  rw [Function.comp_apply, LeafBlock.selectedBy]
  cases x.block.isElse <;> simp

/-- The blocks that are collected for values come in document order, but for those of `if` statements that are overtaken. A
value leads to the block that comes before all others for the same value in this order. -/
theorem blocks_in_order (ht : t.HasDistinctFields) {c c' : BlockCollector} {table : BlockTable}
    (h : collect c t = (.ok table, c')) :
    (valueBranches c.variableName t).map Branch.block = table.blocks.filter (fun b => !b.isElse) ∧
      (∀ x ∈ valueBranches c.variableName t, ∃ name u, c.variableName = some name ∧ t.Leads x.owner u ∧ u.isConditional ∧
        leafBlock? name (SelectorTest.ofConditional? u, u.get "consequent") = some x.block) ∧
      (∀ x ∈ valueBranches c.variableName t, ∀ y ∈ valueBranches c.variableName t, x ≠ y →
        ([x, y].Sublist (valueBranches c.variableName t) ↔ t.IsTakenBefore x.owner y.owner)) ∧
      ∀ value b, table.lookup value = some b ↔ ∃ x ∈ valueBranches c.variableName t, x.block = b ∧ b.selectedBy value ∧
        ∀ y ∈ valueBranches c.variableName t, y.block.selectedBy value → y ≠ x → t.IsTakenBefore x.owner y.owner := by
  have hnodup := nodup_valueBranches ht c.variableName
  refine ⟨?_, fun x hx => exists_member_of_mem_valueBranches hx, fun x hx y hy hne => sublist_valueBranches_iff ht hx hy hne,
    fun value b => ?_⟩
  · rw [← map_block_collected ht h, List.filter_map]
    rfl
  · rw [lookup_eq ht h, Option.map_eq_some_iff]
    constructor
    · rintro ⟨x, hfound, rfl⟩
      obtain ⟨hx, hselected, hothers⟩ := (find?_eq_some_iff_sublist hnodup).mp hfound
      exact ⟨x, hx, rfl, hselected, fun y hy hyselected hne =>
        (sublist_valueBranches_iff ht hx hy hne.symm).mp (hothers y hy hyselected hne)⟩
    · rintro ⟨x, hx, rfl, hselected, hothers⟩
      exact ⟨x, (find?_eq_some_iff_sublist hnodup).mpr ⟨hx, hselected, fun y hy hyselected hne =>
        (sublist_valueBranches_iff ht hx hy hne.symm).mpr (hothers y hy hyselected hne)⟩, rfl⟩

/-- The script `if (s === 0) { while (g) { if (s === 1) { a(); } } } else if (s === 1) { b(); }`. -/
def loopBeforeBranch : Tree :=
  scriptOf [.ifThen (SelectorTest.equals (.text "s") (.int 0)).toTree
    (blockOf [loopOf [.ifThen (SelectorTest.equals (.text "s") (.int 1)).toTree (blockOf [callOf "a"]) .null]])
    (.ifThen (SelectorTest.equals (.text "s") (.int 1)).toTree (blockOf [callOf "b"]) .null)]

theorem exists_collect_loopBeforeBranch : ∃ table c', collect ⟨some "s", 0⟩ loopBeforeBranch = (.ok table, c') := by
  have hprint : IsPrintable "s" loopBeforeBranch := by decide +kernel
  exact exists_collect (by decide) hprint 0

/-- In the script the last `if` statement overtakes the one in the loop. -/
theorem isTakenBefore_loopBeforeBranch :
    loopBeforeBranch.HasDistinctFields ∧ ∃ table c', collect ⟨some "s", 0⟩ loopBeforeBranch = (.ok table, c') ∧
      ∃ x ∈ valueBranches (some "s") loopBeforeBranch, ∃ y ∈ valueBranches (some "s") loopBeforeBranch,
        loopBeforeBranch.IsBefore y.owner x.owner ∧ loopBeforeBranch.IsTakenBefore x.owner y.owner := by
  have hfields : loopBeforeBranch.HasDistinctFields := by decide +kernel
  obtain ⟨table, c', hcollect⟩ := exists_collect_loopBeforeBranch
  obtain ⟨-, -, horder, -⟩ := blocks_in_order hfields hcollect
  have hpair : ∃ x ∈ valueBranches (some "s") loopBeforeBranch, ∃ y ∈ valueBranches (some "s") loopBeforeBranch, x ≠ y ∧
      [x, y].Sublist (valueBranches (some "s") loopBeforeBranch) ∧ loopBeforeBranch.IsBefore y.owner x.owner := by
    decide +kernel
  obtain ⟨x, hx, y, hy, hne, hsub, hbefore⟩ := hpair
  exact ⟨hfields, table, c', hcollect, x, hx, y, hy, hbefore, (horder x hx y hy hne).mp hsub⟩

/-- All `if` statements of the script are bottom-level, but the last two are taken in the opposite order, and the value for
which both are there leads to the block that comes last in the document. -/
theorem collect_loopBeforeBranch :
    (∀ q ∈ loopBeforeBranch.places, q.2.isBottomLevel) ∧
      ∃ table c', collect ⟨some "s", 0⟩ loopBeforeBranch = (.ok table, c') ∧
        table.blocks.map LeafBlock.value = [.int 0, .int 1, .int 1] ∧
        (table.lookup (.int 1)).map LeafBlock.code = some "b();" ∧
        ∃ head inner last : TreePath, loopBeforeBranch.places.map Prod.fst = [head, inner, last] ∧ inner ≠ last ∧
          (collected (some "s") loopBeforeBranch).map (fun x => (x.owner, x.block.code)) =
            [(head, "while (g) \x7b\n    if (s === 1) \x7b\n        a();\n    \x7d\n\x7d"), (last, "b();"), (inner, "a();")] := by
  have hfields : loopBeforeBranch.HasDistinctFields := by decide +kernel
  obtain ⟨table, c', hcollect⟩ := exists_collect_loopBeforeBranch
  have hblocks := map_block_collected hfields hcollect
  refine ⟨by decide +kernel, table, c', hcollect, ?_, ?_, [⟨"body", some 0⟩],
    [⟨"body", some 0⟩, consequentStep, ⟨"body", some 0⟩, ⟨"body", none⟩, ⟨"body", some 0⟩],
    [⟨"body", some 0⟩, alternateStep], by decide +kernel, by decide, by decide +kernel⟩
  · rw [← hblocks]
    decide +kernel
  · rw [BlockTable.lookup, ← hblocks]
    decide +kernel

end BlockCollector
end Deflatten
