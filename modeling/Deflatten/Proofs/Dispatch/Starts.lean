import Deflatten.Proofs.Dispatch.Collection
import Deflatten.Proofs.Tree.DocumentOrder
/-!
# Where chains are taken from

The collector takes a chain from the first of its bottom-level members on. `Tree.starts` lists these members in document
order, in any tree. Whatever a collection gives, its blocks are those of the chains from the starts on
(`BlockCollector.blocks_of_collect`). The invariant is that the conditionals covered are those that are reached along a
chain from the starts visited so far: a start is visited before what is reached from it, and no two starts reach the same
member.
-/

namespace Deflatten

namespace Tree

variable {t : Tree} {q r : List Step × Tree}

/-! ## Starts -/

/-- An `if` statement is bottom-level and comes after no other bottom-level member of its chain. -/
structure IsStart (t : Tree) (q : List Step × Tree) : Prop where
  isBottomLevel : q.2.isBottomLevel
  first : ∀ r ∈ t.places, r.2.isBottomLevel → ∀ k < r.2.chain.length, q.1 = r.1 ++ chainPath k → k = 0

instance (t : Tree) (q : List Step × Tree) : Decidable (t.IsStart q) :=
  decidable_of_iff
    (q.2.isBottomLevel ∧ ∀ r ∈ t.places, r.2.isBottomLevel → ∀ k < r.2.chain.length, q.1 = r.1 ++ chainPath k → k = 0)
    ⟨fun ⟨hbottom, hfirst⟩ => ⟨hbottom, hfirst⟩, fun h => ⟨h.isBottomLevel, h.first⟩⟩

/-- The starts of a tree in document order, each with the path to it. -/
def starts (t : Tree) : List (List Step × Tree) := t.places.filter fun q => t.IsStart q

theorem mem_starts_iff : q ∈ t.starts ↔ q ∈ t.places ∧ t.IsStart q := by
  rw [starts, List.mem_filter, decide_eq_true_iff]

/-- What follows a start along its chain are `if` statements of the tree. -/
theorem leads_of_mem_starts (hq : q ∈ t.starts) {k : Nat} {u : Tree} (hk : q.2.chain[k]? = some u) :
    t.Leads (q.1 ++ chainPath k) u ∧ u.isConditional :=
  mem_places_iff.mp (mem_places_along (mem_starts_iff.mp hq).1 hk)

/-- Whether a path leads to a member that follows one of some places along its chain, or to one of these. -/
def IsCoveredFrom (starts : List (List Step × Tree)) (p : List Step) : Prop :=
  ∃ q ∈ starts, ∃ k < q.2.chain.length, p = q.1 ++ chainPath k

/-- Every bottom-level `if` statement is reached along its chain from a start. -/
theorem isCoveredFrom_starts (ht : t.HasDistinctFields) (hq : q ∈ t.places) (hbottom : q.2.isBottomLevel) :
    IsCoveredFrom t.starts q.1 := by
  generalize hn : q.1.length = n
  induction n using Nat.strongRecOn generalizing q with
  | ind n ih =>
    by_cases hstart : t.IsStart q
    · have hpos : 0 < q.2.chain.length := List.length_pos_iff.mpr (chain_ne_nil (mem_places_iff.mp hq).2)
      exact ⟨q, mem_starts_iff.mpr ⟨hq, hstart⟩, 0, hpos, (List.append_nil _).symm⟩
    · -- It comes after another bottom-level member, which is reached from a start.
      have hnot : ¬∀ r ∈ t.places, r.2.isBottomLevel → ∀ k < r.2.chain.length, q.1 = r.1 ++ chainPath k → k = 0 :=
        fun hfirst => hstart ⟨hbottom, hfirst⟩
      push Not at hnot
      obtain ⟨r, hr, hrbottom, k, hk, hpath, hne⟩ := hnot
      have hshorter : r.1.length < n := by
        rw [← hn, hpath, List.length_append, chainPath, List.length_replicate]
        omega
      obtain ⟨w, hw, j, hj, hrpath⟩ := ih r.1.length hshorter hr hrbottom rfl
      have hchain := chain_of_getElem? (getElem?_chain_of_path ht (mem_starts_iff.mp hw).1 hr hj hrpath)
      refine ⟨w, hw, j + k, ?_, ?_⟩
      · rw [hchain, List.length_drop] at hk
        omega
      · rw [hpath, hrpath, List.append_assoc, chainPath_append]

theorem eq_of_path_eq_of_le (ht : t.HasDistinctFields) (hq : q ∈ t.starts) (hr : r ∈ t.starts) {i j : Nat}
    (hij : i ≤ j) (hj : j < r.2.chain.length) (heq : q.1 ++ chainPath i = r.1 ++ chainPath j) : q = r := by
  obtain ⟨hqplace, hqstart⟩ := mem_starts_iff.mp hq
  obtain ⟨hrplace, hrstart⟩ := mem_starts_iff.mp hr
  have hpath : q.1 = r.1 ++ chainPath (j - i) := by
    rw [← Nat.sub_add_cancel hij, ← chainPath_append, ← List.append_assoc] at heq
    exact List.append_cancel_right heq
  have hzero := hqstart.first r hrplace hrstart.isBottomLevel (j - i) (by omega) hpath
  rw [hzero] at hpath
  exact eq_of_mem_places ht hqplace hrplace (hpath.trans (List.append_nil _))

/-- Two starts from which one member is reached are one. -/
theorem eq_of_mem_starts (ht : t.HasDistinctFields) (hq : q ∈ t.starts) (hr : r ∈ t.starts) {i j : Nat}
    (hi : i < q.2.chain.length) (hj : j < r.2.chain.length) (heq : q.1 ++ chainPath i = r.1 ++ chainPath j) : q = r := by
  rcases Nat.le_total i j with hij | hji
  · exact eq_of_path_eq_of_le ht hq hr hij hj heq
  · exact (eq_of_path_eq_of_le ht hr hq hji hi heq.symm).symm

/-- No member is reached from two starts. -/
theorem pairwise_starts (ht : t.HasDistinctFields) : t.starts.Pairwise fun q r =>
    ∀ i < q.2.chain.length, ∀ j < r.2.chain.length, q.1 ++ chainPath i ≠ r.1 ++ chainPath j := by
  have hstarts : t.starts.Nodup := (nodup_places ht).filter _
  refine (List.Pairwise.and_mem.mp hstarts).imp ?_
  rintro q r ⟨hq, hr, hne⟩ i hi j hj heq
  exact hne (eq_of_mem_starts ht hq hr hi hj heq)

/-! ## Starts visited so far -/

variable {before after : List (List Step × Tree)}

/-- A start has not been covered when it is visited. -/
theorem IsStart.not_isCoveredFrom (ht : t.HasDistinctFields) (hsplit : t.places = before ++ q :: after)
    (h : t.IsStart q) : ¬IsCoveredFrom (before.filter fun r => t.IsStart r) q.1 := by
  rintro ⟨r, hr, k, hk, hpath⟩
  obtain ⟨hrbefore, hrstart⟩ := List.mem_filter.mp hr
  have hrplace : r ∈ t.places := by rw [hsplit]; exact List.mem_append_left _ hrbefore
  have hzero := h.first r hrplace (of_decide_eq_true hrstart).isBottomLevel k hk hpath
  -- Then both are one; but one is visited after the other.
  rw [hzero] at hpath
  have hnodup := nodup_paths_places ht
  rw [hsplit, List.map_append, List.map_cons] at hnodup
  refine (List.nodup_middle.mp hnodup).notMem (List.mem_append_left _ ?_)
  rw [hpath.trans (List.append_nil _)]
  exact List.mem_map_of_mem hrbefore

/-- Any other bottom-level `if` statement has been covered when it is visited. -/
theorem isCoveredFrom_of_not_isStart (ht : t.HasDistinctFields) (hsplit : t.places = before ++ q :: after)
    (hbottom : q.2.isBottomLevel) (h : ¬t.IsStart q) : IsCoveredFrom (before.filter fun r => t.IsStart r) q.1 := by
  have hq : q ∈ t.places := by rw [hsplit]; exact List.mem_append_right _ List.mem_cons_self
  obtain ⟨r, hr, k, hk, hpath⟩ := isCoveredFrom_starts ht hq hbottom
  obtain ⟨hrplace, hrstart⟩ := mem_starts_iff.mp hr
  refine ⟨r, List.mem_filter.mpr ⟨?_, decide_eq_true hrstart⟩, k, hk, hpath⟩
  -- The start is another `if` statement, in which this one lies.
  rw [hsplit] at hrplace
  rcases List.mem_append.mp hrplace with hmem | hmem
  · exact hmem
  · exfalso
    rcases List.mem_cons.mp hmem with rfl | hmem
    · exact h hrstart
    · have hafter : t.IsBefore q.1 r.1 := by
        rw [IsBefore, hsplit, List.map_append, List.map_cons]
        refine List.Sublist.trans ?_ (List.sublist_append_right ..)
        exact (List.singleton_sublist.mpr (List.mem_map_of_mem hmem)).cons_cons q.1
      exact hafter.not_inside ht ⟨chainPath k, hpath.symm⟩

end Tree

namespace BlockCollector

open Deflatten.Tree

variable {name : String} {t : Tree} {s s' : Progress}

/-! ## The collection as a recursion over the places -/

/-- What has been collected when some of the `if` statements of a tree have been visited. -/
structure HasVisited (name : String) (t : Tree) (before : List (TreePath × Tree)) (s : Progress) : Prop where
  covered : ∀ p, p ∈ s.covered ↔ IsCoveredFrom (before.filter fun q => t.IsStart q) p
  blocks : s.table.blocks = (before.filter fun q => t.IsStart q).flatMap fun q => chainBlocks name q.2

/-- At first nothing has been visited. -/
theorem HasVisited.nothing (name : String) (t : Tree) (dropped : Nat) : HasVisited name t [] ⟨{}, dropped, []⟩ := by
  refine ⟨fun p => ⟨fun hmem => ?_, ?_⟩, rfl⟩
  · cases hmem
  · rintro ⟨q, hq, -⟩
    cases hq

variable (ht : t.HasDistinctFields)

include ht in
/-- A visit takes the chain from a start on and covers it, and passes by any other `if` statement. -/
theorem HasVisited.visit_cases {before after : List (TreePath × Tree)} {q : TreePath × Tree}
    (hsplit : t.places = before ++ q :: after) (hbefore : HasVisited name t before s)
    (h : Reaches (visitPlace name q) s s') :
    (t.IsStart q ∧ ∃ s₁, Reaches (takeChain name q.2) s s₁ ∧
        s' = { s₁ with covered := ((List.range q.2.chain.length).map fun k => q.1 ++ chainPath k) ++ s₁.covered }) ∨
      (¬t.IsStart q ∧ s' = s) := by
  have hcovered : s.covered.contains q.1 = true ↔ IsCoveredFrom (before.filter fun r => t.IsStart r) q.1 := by
    rw [List.contains_iff_mem, hbefore.covered]
  by_cases hstart : t.IsStart q
  · have hnew : (s.covered.contains q.1 || !q.2.isBottomLevel) = false := by
      have hnot : s.covered.contains q.1 = false := by
        rw [← Bool.not_eq_true, hcovered]
        exact hstart.not_isCoveredFrom ht hsplit
      rw [hnot, hstart.isBottomLevel]
      rfl
    exact .inl ⟨hstart, reaches_takeChain_of_visit hnew h⟩
  · have hskip : s.covered.contains q.1 || !q.2.isBottomLevel := by
      cases hbottom : q.2.isBottomLevel with
      | false => rw [Bool.not_false, Bool.or_true]
      | true =>
        rw [hcovered.mpr (isCoveredFrom_of_not_isStart ht hsplit hbottom hstart)]
        rfl
    exact .inr ⟨hstart, h.eq (reaches_visit_skipped hskip)⟩

include ht in
/-- After a visit one more `if` statement has been visited. -/
theorem HasVisited.visit {before after : List (TreePath × Tree)} {q : TreePath × Tree}
    (hsplit : t.places = before ++ q :: after) (hbefore : HasVisited name t before s)
    (h : Reaches (visitPlace name q) s s') : HasVisited name t (before ++ [q]) s' := by
  rcases hbefore.visit_cases ht hsplit h with ⟨hstart, s₁, hchain, rfl⟩ | ⟨hstart, rfl⟩
  · have hfilter : (before ++ [q]).filter (fun r => t.IsStart r) = before.filter (fun r => t.IsStart r) ++ [q] := by
      rw [List.filter_append, List.filter_singleton, decide_eq_true hstart]
      rfl
    obtain ⟨hsame, hblocks⟩ := blocks_of_takeChain hchain
    refine ⟨fun p => ?_, ?_⟩
    · -- The members of the chain from here on are covered now, and all that was.
      rw [List.mem_append, hsame, hbefore.covered, hfilter]
      constructor
      · rintro (hmem | ⟨r, hr, hpath⟩)
        · obtain ⟨k, hk, rfl⟩ := List.mem_map.mp hmem
          exact ⟨q, List.mem_append_right _ (List.mem_singleton_self q), k, List.mem_range.mp hk, rfl⟩
        · exact ⟨r, List.mem_append_left _ hr, hpath⟩
      · rintro ⟨r, hr, k, hk, rfl⟩
        rcases List.mem_append.mp hr with hr | hr
        · exact .inr ⟨r, hr, k, hk, rfl⟩
        · obtain rfl := List.mem_singleton.mp hr
          exact .inl (List.mem_map.mpr ⟨k, List.mem_range.mpr hk, rfl⟩)
    · show s₁.table.blocks = _
      rw [hblocks, hbefore.blocks, hfilter, List.flatMap_append, List.flatMap_singleton]
  · have hfilter : (before ++ [q]).filter (fun r => t.IsStart r) = before.filter fun r => t.IsStart r := by
      rw [List.filter_append, List.filter_singleton, decide_eq_false hstart]
      exact List.append_nil _
    exact ⟨fun p => by rw [hfilter, hbefore.covered], by rw [hfilter, hbefore.blocks]⟩

include ht in
/-- The visits of the remaining places collect what remains. -/
theorem HasVisited.places {before after : List (TreePath × Tree)} (hsplit : t.places = before ++ after)
    (hbefore : HasVisited name t before s) (h : Reaches (after.forM (visitPlace name)) s s') :
    HasVisited name t t.places s' := by
  -- Induction on the places that remain: what holds of those visited so far grows by one place at each visit.
  induction after generalizing before s with
  | nil =>
    rw [List.append_nil] at hsplit
    rw [h.eq (reaches_pure s), hsplit]
    exact hbefore
  | cons q after ih =>
    obtain ⟨s₁, hvisit, hrest⟩ := h.exists_of_cons
    exact ih (by rw [hsplit, List.append_assoc]; rfl) (hbefore.visit ht hsplit hvisit) hrest

include ht in
/-- The blocks that are collected from a tree are those of its chains from their starts on. -/
theorem blocks_of_collect {c c' : BlockCollector} {table : BlockTable} (hname : c.variableName = some name)
    (hne : name ≠ "") (h : collect c t = (.ok table, c')) :
    table.blocks = t.starts.flatMap fun q => chainBlocks name q.2 := by
  obtain ⟨s, hvisits, rfl⟩ := reaches_of_collect hname hne h
  exact ((HasVisited.nothing name t c.dropped).places ht rfl hvisits).blocks

end BlockCollector
end Deflatten
