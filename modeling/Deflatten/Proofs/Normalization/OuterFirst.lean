import Deflatten.Proofs.Tree.Partition
/-!
# Heads from the outermost depth inwards

`DepthIndex.IsIndexOf` says what the levels of an index are: ascending depths, each with the heads of that depth in the
order in which they were added. To add a head keeps this (`DepthIndex.IsIndexOf.insert`), so it holds of the index of a
tree. So the heads are listed in the order of their depths and within a depth in document order. What lies in a chain lies
deeper than its head, and so no chain is listed before one that it lies in (`DepthIndex.outerFirst_ordered`).
-/

namespace Deflatten.DepthIndex

open Deflatten.Tree

variable {t : Tree} {v w : Visit} {us vs : List Visit} {levels : List (Nat × List Visit)}

/-! ## Levels -/

/-- Levels hold some heads by their depths, those of one depth in the order in which they were added. -/
structure IsIndexOf (levels : List (Nat × List Visit)) (vs : List Visit) : Prop where
  ascending : levels.Pairwise fun level level' => level.1 < level'.1
  depth : ∀ level ∈ levels, ∀ v ∈ level.2, v.depth = level.1
  order : ∀ d, (levels.flatMap Prod.snd).filter (fun v => v.depth == d) = vs.filter fun v => v.depth == d

theorem isIndexOf_nil : IsIndexOf [] [] := ⟨.nil, by simp, fun _ => rfl⟩

/-- To add a head adds no depth but its own. -/
theorem depth_of_mem_insert {level : Nat × List Visit} (h : level ∈ insert v levels) :
    level.1 = v.depth ∨ ∃ level' ∈ levels, level.1 = level'.1 := by
  induction levels with
  | nil => exact .inl (by rw [List.mem_singleton.mp h])
  | cons level' levels ih =>
    obtain ⟨depth, us⟩ := level'
    rw [insert] at h
    split at h
    · rcases List.mem_cons.mp h with rfl | h
      · exact .inl rfl
      · exact .inr ⟨level, h, rfl⟩
    · split at h
      · rcases List.mem_cons.mp h with rfl | h
        · exact .inr ⟨_, List.mem_cons_self, rfl⟩
        · exact .inr ⟨level, List.mem_cons_of_mem _ h, rfl⟩
      · rcases List.mem_cons.mp h with rfl | h
        · exact .inr ⟨_, List.mem_cons_self, rfl⟩
        · rcases ih h with hown | ⟨level', hlevel', heq⟩
          · exact .inl hown
          · exact .inr ⟨level', List.mem_cons_of_mem _ hlevel', heq⟩

theorem ascending_insert (h : levels.Pairwise fun level level' => level.1 < level'.1) :
    (insert v levels).Pairwise fun level level' => level.1 < level'.1 := by
  induction levels with
  | nil => exact List.pairwise_singleton _ _
  | cons level levels ih =>
    obtain ⟨depth, us⟩ := level
    obtain ⟨hfirst, hrest⟩ := List.pairwise_cons.mp h
    rw [insert]
    split
    · -- The head opens a level of its own, before all others.
      rename_i hlt
      refine List.pairwise_cons.mpr ⟨fun level hlevel => ?_, h⟩
      rcases List.mem_cons.mp hlevel with rfl | hlevel
      · exact hlt
      · exact Nat.lt_trans hlt (hfirst level hlevel)
    · split
      · exact List.pairwise_cons.mpr ⟨hfirst, hrest⟩
      · rename_i hnot hne
        refine List.pairwise_cons.mpr ⟨fun level hlevel => ?_, ih hrest⟩
        rcases depth_of_mem_insert hlevel with heq | ⟨level', hlevel', heq⟩
        · show depth < level.1
          omega
        · rw [heq]
          exact hfirst level' hlevel'

theorem depth_insert (h : ∀ level ∈ levels, ∀ w ∈ level.2, w.depth = level.1) :
    ∀ level ∈ insert v levels, ∀ w ∈ level.2, w.depth = level.1 := by
  induction levels with
  | nil => simp [insert]
  | cons level levels ih =>
    obtain ⟨depth, vs⟩ := level
    rw [List.forall_mem_cons] at h
    have hself : ∀ w ∈ [v], w.depth = v.depth := by simp
    rw [insert]
    split
    · exact List.forall_mem_cons.mpr ⟨hself, List.forall_mem_cons.mpr h⟩
    · split
      · rename_i hdepth
        exact List.forall_mem_cons.mpr ⟨List.forall_mem_append.mpr ⟨h.1, by simp [hdepth]⟩, h.2⟩
      · exact List.forall_mem_cons.mpr ⟨h.1, ih h.2⟩

/-- Before deeper heads a head may as well stand after them, if only the order within a depth matters. -/
theorem filter_cons_of_lt (h : ∀ w ∈ us, v.depth < w.depth) (d : Nat) :
    (v :: us).filter (fun w => w.depth == d) =
      us.filter (fun w => w.depth == d) ++ [v].filter fun w => w.depth == d := by
  rw [List.filter_cons, List.filter_cons, List.filter_nil]
  cases hd : v.depth == d with
  | true =>
    have hnone : us.filter (fun w => w.depth == d) = [] := by
      rw [List.filter_eq_nil_iff]
      intro w hw
      have hlt := h w hw
      simp only [beq_iff_eq] at hd ⊢
      omega
    rw [hnone]
    rfl
  | false => exact (List.append_nil _).symm

/-- A head is added after the others of its depth. -/
theorem filter_insert (hascending : levels.Pairwise fun level level' => level.1 < level'.1)
    (hdepth : ∀ level ∈ levels, ∀ w ∈ level.2, w.depth = level.1) (d : Nat) :
    ((insert v levels).flatMap Prod.snd).filter (fun w => w.depth == d) =
      (levels.flatMap Prod.snd).filter (fun w => w.depth == d) ++ [v].filter fun w => w.depth == d := by
  induction levels with
  | nil => rfl
  | cons level levels ih =>
    obtain ⟨depth, us⟩ := level
    obtain ⟨hfirst, hrest⟩ := List.pairwise_cons.mp hascending
    obtain ⟨hown, hothers⟩ := List.forall_mem_cons.mp hdepth
    have hdeeper : ∀ w ∈ levels.flatMap Prod.snd, depth < w.depth := by
      intro w hw
      obtain ⟨level, hlevel, hw⟩ := List.mem_flatMap.mp hw
      rw [hothers level hlevel w hw]
      exact hfirst level hlevel
    rw [insert]
    split
    · -- All levels lie deeper than the new one, so that the head may as well stand at the end.
      rename_i hlt
      rw [List.flatMap_cons, List.singleton_append, List.flatMap_cons]
      refine filter_cons_of_lt (fun w hw => ?_) d
      rcases List.mem_append.mp hw with hw | hw
      · rw [hown w hw]
        exact hlt
      · exact Nat.lt_trans hlt (hdeeper w hw)
    · split
      · -- The head is added to the first level, and the levels after it lie deeper.
        rename_i heq
        have hswap := filter_cons_of_lt (v := v) (heq ▸ hdeeper) d
        rw [List.flatMap_cons, List.flatMap_cons, List.append_assoc, List.filter_append, List.singleton_append, hswap,
          List.filter_append, List.append_assoc]
      · rw [List.flatMap_cons, List.flatMap_cons, List.filter_append, ih hrest hothers, List.filter_append,
          List.append_assoc]

theorem IsIndexOf.insert (h : IsIndexOf levels vs) (v : Visit) : IsIndexOf (insert v levels) (vs ++ [v]) where
  ascending := ascending_insert h.ascending
  depth := depth_insert h.depth
  order d := by rw [filter_insert h.ascending h.depth, h.order, List.filter_append]

/-- The index of a tree holds its heads, those of one depth in document order. -/
theorem isIndexOf_ofTree (t : Tree) : IsIndexOf (ofTree t).levels (heads t) :=
  ofTree_induction isIndexOf_nil (fun v _ _ h => h.insert v) t

/-- The index has each head at a level, at that of its depth. -/
theorem mem_heads_of_mem_levels {level : Nat × List Visit} (hlevel : level ∈ (ofTree t).levels) (hv : v ∈ level.2) :
    v ∈ heads t ∧ v.depth = level.1 :=
  ⟨(outerFirst_perm t).mem_iff.mp (List.mem_flatMap.mpr ⟨level, hlevel, hv⟩),
    (isIndexOf_ofTree t).depth level hlevel v hv⟩

/-! ## The order of the heads -/

theorem pairwise_depth_outerFirst (t : Tree) : (ofTree t).outerFirst.Pairwise fun v w => v.depth ≤ w.depth := by
  obtain ⟨hascending, hdepth, -⟩ := isIndexOf_ofTree t
  refine List.pairwise_flatMap.mpr ⟨fun level hlevel => ?_, ?_⟩
  · refine List.pairwise_of_forall_mem_list fun v hv w hw => ?_
    exact Nat.le_of_eq ((hdepth level hlevel v hv).trans (hdepth level hlevel w hw).symm)
  · refine hascending.imp_of_mem fun {level level'} hlevel hlevel' hlt v hv w hw => ?_
    rw [hdepth level hlevel v hv, hdepth level' hlevel' w hw]
    exact Nat.le_of_lt hlt

/-- A head is listed before those that lie deeper. -/
theorem sublist_outerFirst_of_lt (hv : v ∈ heads t) (hw : w ∈ heads t) (h : v.depth < w.depth) :
    [v, w].Sublist (ofTree t).outerFirst := by
  have hlisted : ∀ {u}, u ∈ heads t → u ∈ (ofTree t).outerFirst := (outerFirst_perm t).mem_iff.mpr
  have hne : v ≠ w := fun heq => Nat.lt_irrefl _ (heq ▸ h)
  rcases sublist_or_sublist_of_mem (hlisted hv) (hlisted hw) hne with hbefore | hafter
  · exact hbefore
  · have hle := List.pairwise_iff_forall_sublist.mp (pairwise_depth_outerFirst t) hafter
    omega

theorem size_eq_length_outerFirst (i : DepthIndex) : i.size = i.outerFirst.length := by
  obtain ⟨levels⟩ := i
  show levels.foldr (fun l n => l.2.length + n) 0 = (levels.flatMap Prod.snd).length
  induction levels with
  | nil => rfl
  | cons level levels ih => rw [List.foldr_cons, ih, List.flatMap_cons, List.length_append]

/-- From the outermost depth inwards each head is listed once, at the depth that is recorded for it, the depths ascending
and the heads of one depth in document order. A head in a member of a chain, be it in the test, in the branch or in the
`else` part, is listed after the head of the chain. The size of the index is the number of heads. -/
theorem outerFirst_ordered (ht : t.HasDistinctFields) :
    (ofTree t).outerFirst.Perm (heads t) ∧ ((ofTree t).outerFirst.map Visit.path).Nodup ∧
      (∀ level ∈ (ofTree t).levels, ∀ v ∈ level.2, v.depth = level.1) ∧
      ((ofTree t).outerFirst.Pairwise fun v w => v.depth ≤ w.depth) ∧
      (∀ d, (ofTree t).outerFirst.filter (fun v => v.depth == d) = (heads t).filter fun v => v.depth == d) ∧
      (∀ head ∈ heads t, ∀ inner ∈ heads t, ∀ member ∈ t.memberVisits head, member.path <+: inner.path → inner ≠ head →
        [head, inner].Sublist (ofTree t).outerFirst) ∧
      (ofTree t).size = (heads t).length := by
  have hindex := isIndexOf_ofTree t
  have hperm := outerFirst_perm t
  refine ⟨hperm, ?_, hindex.depth, pairwise_depth_outerFirst t, hindex.order, ?_, ?_⟩
  · exact (hperm.map Visit.path).nodup_iff.mpr (nodup_paths_heads ht)
  · intro head hhead inner hinner member hmember hprefix hne
    -- What lies in a member lies in the head too, as the path to the member goes through the head.
    obtain ⟨hwalk, hcond, -⟩ := mem_heads_iff.mp hhead
    obtain ⟨k, -, hpath⟩ := (mem_memberVisits_iff.mp hmember).2
    have hinside : head.path <+: inner.path := (hpath ▸ List.prefix_append _ _).trans hprefix
    have hpaths : head.path ≠ inner.path := fun heq =>
      hne (List.inj_on_of_nodup_map (nodup_paths_heads ht) hinner hhead heq.symm)
    exact sublist_outerFirst_of_lt hhead hinner
      (depth_lt_of_inside ht hwalk (mem_heads_iff.mp hinner).1 hcond hinside hpaths)
  · rw [size_eq_length_outerFirst, hperm.length_eq]

/-- The last head in the script stands outermost and is listed before those that lie in the first chain. -/
theorem outerFirst_ordered_scatteredChains :
    scatteredChains.HasDistinctFields ∧ (heads scatteredChains).map Visit.depth = [0, 1, 3, 3, 0] ∧
      (ofTree scatteredChains).outerFirst.map Visit.depth = [0, 0, 1, 3, 3] ∧
      ((ofTree scatteredChains).outerFirst.map Visit.path).Nodup ∧ (ofTree scatteredChains).size = 5 := by
  have hfields : scatteredChains.HasDistinctFields := by decide +kernel
  have hcount : (heads scatteredChains).length = 5 := by decide +kernel
  obtain ⟨-, hnodup, -, -, -, -, hsize⟩ := outerFirst_ordered hfields
  exact ⟨hfields, by decide +kernel, by decide +kernel, hnodup, hsize.trans hcount⟩

end Deflatten.DepthIndex
