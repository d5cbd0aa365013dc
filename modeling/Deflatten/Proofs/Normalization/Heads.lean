import Deflatten.Normalization.DepthIndex
import Deflatten.Proofs.Normalization.Relocation
import Mathlib.Data.List.Perm.Basic
/-!
# Heads

The heads of the chains of a tree are visited each at a path of its own, and no such path goes on along a chain in its
last step (`DepthIndex.leadsToHead_of_mem_heads`). The order in which the pass treats them is a permutation of document
order (`DepthIndex.outerFirst_perm`).
-/

namespace Deflatten

namespace Tree

/-- A visit is that of the root, or it has a parent, a field and a way there. -/
theorem root_or_below_of_mem_walk {t : Tree} {v : Visit} (h : v ∈ t.walk) :
    v = .root t ∨ v.path ≠ [] ∧ v.parent.isSome ∧ v.field.isSome := by
  rw [walk_eq] at h
  rcases List.mem_cons.mp h with rfl | h
  · exact .inl rfl
  · obtain ⟨c, -, hv⟩ := List.mem_flatMap.mp h
    obtain ⟨u, -, rfl⟩ := List.mem_map.mp hv
    refine .inr ⟨?_, ?_, ?_⟩ <;> simp [Visit.ofChild, Visit.under]

theorem mem_walk_self (t : Tree) : Visit.root t ∈ t.walk := by
  rw [walk_eq]
  exact List.mem_cons_self

theorem isElseBranch_under {t : Tree} {c : Step × Tree} {v : Visit} (h : v ∈ c.2.walk) :
    ((Visit.ofChild t c).under v).isElseBranch =
      if v.path.isEmpty then c.1.field == "alternate" && t.isConditional else v.isElseBranch := by
  rcases root_or_below_of_mem_walk h with rfl | ⟨hne, hparent, hfield⟩
  · simp [Visit.under, Visit.isElseBranch, Visit.root, Visit.ofChild]
  · obtain ⟨parent, hparent⟩ := Option.isSome_iff_exists.mp hparent
    obtain ⟨field, hfield⟩ := Option.isSome_iff_exists.mp hfield
    simp [Visit.under, Visit.isElseBranch, Visit.ofChild, hne, hparent, hfield]

/-- A visit below a node is one in the walk of a child, seen from there. -/
theorem mem_walk_below {t : Tree} {v : Visit} (h : v ∈ t.walk) (hne : v.path ≠ []) :
    ∃ c ∈ t.children, ∃ u ∈ c.2.walk, v = (Visit.ofChild t c).under u := by
  rw [walk_eq] at h
  rcases List.mem_cons.mp h with rfl | h
  · exact absurd rfl hne
  · obtain ⟨c, hc, hv⟩ := List.mem_flatMap.mp h
    obtain ⟨u, hu, rfl⟩ := List.mem_map.mp hv
    exact ⟨c, hc, u, hu, rfl⟩

/-- Every path that leads to a node is the path of a visit. -/
theorem exists_mem_walk_of_leads {t u : Tree} {p : List Step} (h : t.Leads p u) :
    ∃ v ∈ t.walk, v.path = p ∧ v.node = u := by
  induction h with
  | here t => exact ⟨.root t, t.mem_walk_self, rfl, rfl⟩
  | @child t c u s p hc _ ih =>
    obtain ⟨v, hv, hpath, hnode⟩ := ih
    refine ⟨(Visit.ofChild t (s, c)).under v, ?_, ?_, hnode⟩
    · rw [walk_eq]
      exact List.mem_cons_of_mem _ (List.mem_flatMap.mpr ⟨_, hc, List.mem_map_of_mem hv⟩)
    · simp [Visit.ofChild, hpath]

theorem leadsToHead_of_mem_walk {t : Tree} {v : Visit} (h : v ∈ t.walk) (helse : v.isElseBranch = false) :
    t.LeadsToHead v.path v.node := by
  induction t using induction_children generalizing v with
  | step t ih =>
    rcases root_or_below_of_mem_walk h with rfl | ⟨hne, -, -⟩
    · exact .here t
    · obtain ⟨c, hc, u, hu, rfl⟩ := mem_walk_below h hne
      rw [isElseBranch_under hu] at helse
      rcases root_or_below_of_mem_walk hu with rfl | ⟨hbelow, -⟩
      · -- The node is the child itself; the visit says whether the step to it goes on along a chain.
        refine .child hc (fun _ => ?_) (.here c.2)
        rw [ElseGuard.continues]
        cases hcond : t.isConditional with
        | false => rfl
        | true =>
          have hfield : c.1.field ≠ "alternate" := by simpa [hcond, Visit.root] using helse
          have hstep : c.1 ≠ alternateStep := fun heq => hfield (by rw [heq]; rfl)
          simpa using hstep
      · rw [if_neg (by simpa using hbelow)] at helse
        exact .child hc (fun hnil => absurd hnil hbelow) (ih c hc hu helse)

end Tree

namespace DepthIndex

open Deflatten.Tree

variable {t : Tree} {v : Visit}

theorem mem_heads_iff : v ∈ heads t ↔ v ∈ t.walk ∧ v.node.isConditional ∧ v.isElseBranch = false := by
  simp only [heads, conditionals, walkTag, isConditional, List.mem_filter, Bool.not_eq_true', and_assoc]

theorem leadsToHead_of_mem_heads (h : v ∈ heads t) : t.LeadsToHead v.path v.node := by
  obtain ⟨hwalk, -, helse⟩ := mem_heads_iff.mp h
  exact leadsToHead_of_mem_walk hwalk helse

theorem heads_sublist_walk (t : Tree) : (heads t).Sublist t.walk := by
  rw [heads, conditionals, walkTag]
  exact List.filter_sublist.trans List.filter_sublist

theorem nodup_paths_heads (ht : t.HasDistinctFields) : ((heads t).map Visit.path).Nodup :=
  (nodup_paths_walk ht).sublist ((heads_sublist_walk t).map _)

/-! ## Order -/

theorem insert_perm (v : Visit) (levels : List (Nat × List Visit)) :
    ((insert v levels).flatMap Prod.snd).Perm (v :: levels.flatMap Prod.snd) := by
  induction levels with
  | nil => exact .refl _
  | cons level levels ih =>
    obtain ⟨depth, vs⟩ := level
    rw [insert]
    split
    · exact .refl _
    · split
      · rw [List.flatMap_cons, List.flatMap_cons, List.append_assoc]
        exact List.perm_middle
      · rw [List.flatMap_cons, List.flatMap_cons]
        exact (ih.append_left vs).trans List.perm_middle

/-- What holds of no levels, and goes on to hold as heads are added one by one, holds of the index of a tree. -/
theorem ofTree_induction {P : List (Nat × List Visit) → List Visit → Prop} (hnil : P [] [])
    (hinsert : ∀ v {levels vs}, P levels vs → P (insert v levels) (vs ++ [v])) (t : Tree) :
    P (ofTree t).levels (heads t) := by
  have hfold : ∀ (ws : List Visit) {levels vs}, P levels vs →
      P (ws.foldl (fun levels v => insert v levels) levels) (vs ++ ws) := by
    intro ws
    induction ws with
    | nil =>
      intro levels vs h
      rwa [List.append_nil]
    | cons w ws ih =>
      intro levels vs h
      rw [List.append_cons]
      exact ih (hinsert w h)
  exact hfold (heads t) hnil

/-- The heads from the outermost depth inwards are the heads. -/
theorem outerFirst_perm (t : Tree) : (ofTree t).outerFirst.Perm (heads t) := by
  refine @ofTree_induction (fun levels vs => (levels.flatMap Prod.snd).Perm vs) (.refl _) (fun v levels vs h => ?_) t
  exact (insert_perm v levels).trans ((h.cons v).trans (List.perm_append_singleton v vs).symm)

end DepthIndex
end Deflatten
