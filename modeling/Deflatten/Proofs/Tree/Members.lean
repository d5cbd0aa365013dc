import Deflatten.Proofs.Normalization.Heads
import Deflatten.Proofs.Tree.FlatChains
import Mathlib.Data.List.Pairwise
import Mathlib.Data.List.Perm.Basic
/-!
# Members of chains

Where every `else` part is one statement or none, each `if` statement of a tree is a member of the chain at one head, and
of no other (`Tree.places_perm_members`, `Tree.eq_of_chainPath_eq`). `Tree.headPlaces` gives the heads by a recursion over
the tree. No path in the walk of a tree is a prefix of an earlier one (`Tree.pairwise_not_prefix_walk`), so the members of
a chain are visited in chain order.
-/

namespace Deflatten

namespace Tree

variable {t : Tree}

/-! ## Paths in the walk -/

/-- No path in the walk is a prefix of an earlier one. -/
theorem pairwise_not_prefix_walk (ht : t.HasDistinctFields) :
    (t.walk.map Visit.path).Pairwise fun p q => ¬q <+: p := by
  induction t using induction_children with
  | step t ih =>
    rw [map_path_walk, List.pairwise_cons, List.pairwise_flatMap]
    refine ⟨?_, ?_, ?_⟩
    · intro p hp hprefix
      obtain ⟨c, -, hp⟩ := List.mem_flatMap.mp hp
      obtain ⟨q, -, rfl⟩ := List.mem_map.mp hp
      exact absurd (List.prefix_nil.mp hprefix) (List.cons_ne_nil _ _)
    · intro c hc
      rw [List.pairwise_map]
      exact (ih c hc (ht.child hc)).imp fun hnot hprefix => hnot (List.cons_prefix_cons.mp hprefix).2
    · -- Below different children the paths differ from the first step on.
      refine (List.pairwise_map.mp (nodup_steps_children ht.self)).imp fun {c d} hne => ?_
      intro p hp q hq hprefix
      obtain ⟨p', -, rfl⟩ := List.mem_map.mp hp
      obtain ⟨q', -, rfl⟩ := List.mem_map.mp hq
      exact hne (List.cons_prefix_cons.mp hprefix).1.symm

/-! ## Heads with their places -/

/-- Whether a visit is that of a head, if it is known of the root whether it stands in an `else` part. -/
def isHead (isElse : Bool) (v : Visit) : Bool :=
  v.node.isConditional && !(if v.path.isEmpty then isElse else v.isElseBranch)

/-- The heads in a tree, each with the path to it, if it is known of the root whether it stands in the `else` part of an
`if` statement. -/
def headPlaces (isElse : Bool) (t : Tree) : List (List Step × Tree) :=
  (t.walk.filter (isHead isElse)).map fun v => (v.path, v.node)

theorem heads_eq_headPlaces (t : Tree) :
    (DepthIndex.heads t).map (fun v => (v.path, v.node)) = t.headPlaces false := by
  rw [DepthIndex.heads, conditionals, walkTag, List.filter_filter, headPlaces]
  congr 1
  refine List.filter_congr fun v hv => ?_
  rcases root_or_below_of_mem_walk hv with rfl | ⟨hne, -⟩
  · simp [isHead, Visit.root, Visit.isElseBranch, isConditional]
  · simp [isHead, hne, isConditional, Bool.and_comm]

/-- The root comes first if it is a head, then the heads in each child. -/
theorem headPlaces_eq (isElse : Bool) (t : Tree) :
    t.headPlaces isElse = (if t.isConditional && !isElse then [([], t)] else []) ++
      t.children.flatMap fun c =>
        (c.2.headPlaces (c.1.field == "alternate" && t.isConditional)).map (placeBelow c.1) := by
  have hroot : isHead isElse (.root t) = (t.isConditional && !isElse) := rfl
  have hbelow : ∀ c ∈ t.children,
      ((c.2.walk.map (Visit.ofChild t c).under).filter (isHead isElse)).map (fun v => (v.path, v.node)) =
        (c.2.headPlaces (c.1.field == "alternate" && t.isConditional)).map (placeBelow c.1) := by
    intro c _
    rw [List.filter_map, List.map_map, headPlaces, List.map_map]
    have hfilter : c.2.walk.filter (isHead isElse ∘ (Visit.ofChild t c).under) =
        c.2.walk.filter (isHead (c.1.field == "alternate" && t.isConditional)) := by
      refine List.filter_congr fun v hv => ?_
      have hpath : ((Visit.ofChild t c).under v).path.isEmpty = false := rfl
      rw [Function.comp_apply, isHead, hpath, isElseBranch_under hv]
      rfl
    rw [hfilter]
    rfl
  rw [headPlaces, walk_eq, List.filter_cons, List.filter_flatMap, hroot]
  split
  · rw [List.map_cons, List.map_flatMap, List.flatMap_congr hbelow]
    rfl
  · rw [List.map_flatMap, List.flatMap_congr hbelow]
    rfl

/-- Among the heads the root is the one that depends on where it stands. -/
theorem headPlaces_false (t : Tree) :
    t.headPlaces false = (if t.isConditional then [([], t)] else []) ++ t.headPlaces true := by
  rw [headPlaces_eq, headPlaces_eq true]
  simp

theorem isConditional_of_mem_headPlaces {isElse : Bool} {q : List Step × Tree} (h : q ∈ t.headPlaces isElse) :
    q.2.isConditional := by
  obtain ⟨v, hv, rfl⟩ := List.mem_map.mp h
  exact (Bool.and_eq_true_iff.mp (List.mem_filter.mp hv).2).1

/-! ## Members -/

/-- Every `else` part in a tree is one statement or none. -/
def HasSingleAlternates (t : Tree) : Prop :=
  ∀ u ∈ t.nodes, u.isConditional → (u.get "alternate").isNull ∨ (u.get "alternate").isNode

instance (t : Tree) : Decidable t.HasSingleAlternates :=
  inferInstanceAs (Decidable (∀ u ∈ t.nodes, u.isConditional → _))

theorem HasSingleAlternates.child {c : Step × Tree} (h : t.HasSingleAlternates) (hc : c ∈ t.children) :
    c.2.HasSingleAlternates :=
  fun u hu => h u (mem_nodes_of_child hc hu)

/-- The one child in an `else` part stands at the step into it. -/
theorem HasSingleAlternates.step_eq {c : Step × Tree} (h : t.HasSingleAlternates) (ht : t.HasDistinctFields)
    (hcond : t.isConditional) (hc : c ∈ t.children) (hfield : c.1.field = "alternate") : c.1 = alternateStep := by
  obtain ⟨⟨field, item⟩, c⟩ := c
  have hfield : field = "alternate" := hfield
  subst hfield
  cases item with
  | none => rfl
  | some i =>
    -- A child in a list would be an item of the `else` part, which is no list.
    have hitem : (t.get "alternate").items[i]? = some c := step?_of_mem_children ht.self hc
    have hsingle := h t t.mem_nodes_self hcond
    generalize t.get "alternate" = alternate at hitem hsingle
    cases alternate with
    | list _ => rcases hsingle with h | h <;> cases h
    | _ => cases hitem

/-- The members of the chain at a place, each with the path to it. -/
def memberPlaces (q : List Step × Tree) : List (List Step × Tree) :=
  q.2.chain.zipIdx.map fun m => (q.1 ++ chainPath m.2, m.1)

theorem memberPlaces_of_not_isConditional {p : List Step} (h : t.isConditional = false) : memberPlaces (p, t) = [] := by
  rw [memberPlaces, chain_of_not_isConditional h, List.zipIdx_nil, List.map_nil]

theorem memberPlaces_eq (h : t.isConditional) :
    memberPlaces ([], t) = ([], t) :: (memberPlaces ([], t.get "alternate")).map (placeBelow alternateStep) := by
  rw [memberPlaces, memberPlaces, chain_eq h, List.zipIdx_cons, List.map_cons, List.zipIdx_succ, List.map_map, List.map_map]
  rfl

/-- The `else` part of a member, if it is one statement or none, is the next member or no member. -/
theorem memberPlaces_alternate (h : t.HasSingleAlternates) (ht : t.HasDistinctFields) (hcond : t.isConditional) :
    (memberPlaces ([], t.get "alternate")).map (placeBelow alternateStep) =
      t.children.flatMap fun c =>
        if c.1.field == "alternate" then (memberPlaces ([], c.2)).map (placeBelow c.1) else [] := by
  have hothers : ∀ c ∈ t.children, c.1 ≠ alternateStep →
      (if c.1.field == "alternate" then (memberPlaces ([], c.2)).map (placeBelow c.1) else []) = [] := by
    intro c hc hne
    rw [if_neg]
    intro hfield
    exact hne (h.step_eq ht hcond hc (by simpa using hfield))
  cases hnode : (t.get "alternate").isNode with
  | true =>
    have hmem : (alternateStep, t.get "alternate") ∈ t.children :=
      get_mem_children (isNode_of_isConditional hcond) rfl hnode
    rw [flatMap_of_others_nil hmem (nodup_steps_children ht.self) hothers]
    rfl
  | false =>
    rw [memberPlaces_of_not_isConditional (not_isConditional_of_not_isNode hnode), List.map_nil, eq_comm,
      List.flatMap_eq_nil_iff]
    intro c hc
    refine hothers c hc fun hstep => ?_
    -- A child at this step would be the `else` part.
    have hfound := step?_of_mem_children ht.self hc
    rw [hstep] at hfound
    have hget : t.get "alternate" = c.2 := get_of_field? hfound
    rw [hget, isNode_of_mem_children hc] at hnode
    cases hnode

theorem memberPlaces_below (s : Step) (q : List Step × Tree) :
    memberPlaces (placeBelow s q) = (memberPlaces q).map (placeBelow s) := by
  rw [memberPlaces, memberPlaces, List.map_map]
  rfl

theorem flatMap_memberPlaces_below (s : Step) (qs : List (List Step × Tree)) :
    (qs.map (placeBelow s)).flatMap memberPlaces = (qs.flatMap memberPlaces).map (placeBelow s) := by
  rw [List.flatMap_map, List.map_flatMap]
  exact List.flatMap_congr fun q _ => memberPlaces_below s q

/-- The `if` statements of a tree are the members of the chain of its root and those of the chains at its other heads. -/
theorem places_perm (ht : t.HasDistinctFields) (h : t.HasSingleAlternates) :
    t.places.Perm (memberPlaces ([], t) ++ (t.headPlaces true).flatMap memberPlaces) := by
  induction t using induction_children with
  | step t ih =>
    -- The chain of a child goes on from the root's in its `else` part, and elsewhere it has a head of its own.
    have hchild : ∀ c ∈ t.children, (c.2.places.map (placeBelow c.1)).Perm
        ((if c.1.field == "alternate" && t.isConditional then (memberPlaces ([], c.2)).map (placeBelow c.1) else []) ++
          ((c.2.headPlaces (c.1.field == "alternate" && t.isConditional)).map (placeBelow c.1)).flatMap memberPlaces) := by
      intro c hc
      have hplaces := (ih c hc (ht.child hc) (h.child hc)).map (placeBelow c.1)
      rw [List.map_append] at hplaces
      cases hs : (c.1.field == "alternate" && t.isConditional) with
      | true =>
        rw [if_pos rfl, flatMap_memberPlaces_below]
        exact hplaces
      | false =>
        -- The child is treated as a head, so that the chain that it heads is counted with the others.
        rw [if_neg Bool.false_ne_true, List.nil_append, flatMap_memberPlaces_below, headPlaces_false,
          List.flatMap_append, List.map_append]
        cases hcond : c.2.isConditional with
        | true => simpa using hplaces
        | false => simpa [memberPlaces_of_not_isConditional hcond] using hplaces
    rw [places_eq, headPlaces_eq, Bool.not_true, Bool.and_false, if_neg Bool.false_ne_true, List.nil_append,
      List.flatMap_assoc]
    have hall := (List.Perm.flatMap_left t.children hchild).trans (List.flatMap_append_perm t.children _ _).symm
    cases hcond : t.isConditional with
    | true =>
      simp only [hcond, Bool.and_true] at hall
      rw [if_pos rfl, memberPlaces_eq hcond, memberPlaces_alternate h ht hcond]
      simp only [Bool.and_true]
      exact hall.cons _
    | false =>
      have hnone : (t.children.flatMap fun _ => ([] : List (List Step × Tree))) = [] :=
        List.flatMap_eq_nil_iff.mpr fun _ _ => rfl
      simp only [hcond, Bool.and_false, Bool.false_eq_true, if_false, hnone, List.nil_append] at hall
      rw [if_neg Bool.false_ne_true, memberPlaces_of_not_isConditional hcond]
      simp only [Bool.and_false]
      exact hall

/-- The `if` statements of a tree are the members of the chains at its heads. -/
theorem places_perm_members (ht : t.HasDistinctFields) (h : t.HasSingleAlternates) :
    t.places.Perm ((t.headPlaces false).flatMap memberPlaces) := by
  have hplaces := places_perm ht h
  rw [headPlaces_false, List.flatMap_append]
  cases hcond : t.isConditional with
  | true => simpa using hplaces
  | false => simpa [memberPlaces_of_not_isConditional hcond] using hplaces

/-- No `if` statement is visited before one that it is part of. -/
theorem pairwise_not_prefix_places (ht : t.HasDistinctFields) :
    (t.places.map Prod.fst).Pairwise fun p q => ¬q <+: p := by
  have hsub : List.Sublist t.conditionals t.walk := List.filter_sublist
  rw [places, List.map_map]
  exact (pairwise_not_prefix_walk ht).sublist (hsub.map Visit.path)

theorem nodup_paths_places (ht : t.HasDistinctFields) : (t.places.map Prod.fst).Nodup := by
  refine (pairwise_not_prefix_places ht).imp ?_
  rintro p _ hnot rfl
  exact hnot List.prefix_rfl

theorem mem_nodes_of_mem_places {q : List Step × Tree} (hq : q ∈ t.places) : q.2 ∈ t.nodes := by
  obtain ⟨v, hv, rfl⟩ := List.mem_map.mp hq
  exact List.mem_map_of_mem (List.mem_filter.mp hv).1

theorem isConditional_of_mem_places {q : List Step × Tree} (hq : q ∈ t.places) : q.2.isConditional := by
  obtain ⟨v, hv, rfl⟩ := List.mem_map.mp hq
  exact (List.mem_filter.mp hv).2

theorem eq_of_mem_places (ht : t.HasDistinctFields) {q r : List Step × Tree} (hq : q ∈ t.places) (hr : r ∈ t.places)
    (h : q.1 = r.1) : q = r :=
  List.inj_on_of_nodup_map (nodup_paths_places ht) hq hr h

theorem getElem?_memberPlaces (q : List Step × Tree) (k : Nat) :
    (memberPlaces q)[k]? = q.2.chain[k]?.map fun u => (q.1 ++ chainPath k, u) := by
  rw [memberPlaces, List.getElem?_map, List.getElem?_zipIdx, Option.map_map, Nat.zero_add]
  rfl

theorem mem_memberPlaces_iff {q m : List Step × Tree} :
    m ∈ memberPlaces q ↔ ∃ k, q.2.chain[k]? = some m.2 ∧ m.1 = q.1 ++ chainPath k := by
  rw [List.mem_iff_getElem?]
  refine exists_congr fun k => ?_
  rw [getElem?_memberPlaces, Option.map_eq_some_iff]
  constructor
  · rintro ⟨u, hu, rfl⟩
    exact ⟨hu, rfl⟩
  · rintro ⟨hu, hpath⟩
    exact ⟨m.2, hu, Prod.ext hpath.symm rfl⟩

/-- Every `if` statement is a member of the chain at some head. -/
theorem exists_head_of_mem_places (ht : t.HasDistinctFields) (h : t.HasSingleAlternates) {q : List Step × Tree}
    (hq : q ∈ t.places) : ∃ head ∈ t.headPlaces false, ∃ k, head.2.chain[k]? = some q.2 ∧ q.1 = head.1 ++ chainPath k := by
  obtain ⟨head, hhead, hmem⟩ := List.mem_flatMap.mp ((places_perm_members ht h).mem_iff.mp hq)
  exact ⟨head, hhead, mem_memberPlaces_iff.mp hmem⟩

/-- The members of the chains at the heads are `if` statements of the tree. -/
theorem mem_places_of_mem_chain (ht : t.HasDistinctFields) (h : t.HasSingleAlternates) {head : List Step × Tree}
    (hhead : head ∈ t.headPlaces false) {k : Nat} {u : Tree} (hk : head.2.chain[k]? = some u) :
    (head.1 ++ chainPath k, u) ∈ t.places :=
  (places_perm_members ht h).mem_iff.mpr
    (List.mem_flatMap.mpr ⟨head, hhead, mem_memberPlaces_iff.mpr ⟨k, hk, rfl⟩⟩)

theorem map_fst_memberPlaces (q : List Step × Tree) :
    (memberPlaces q).map Prod.fst = (List.range q.2.chain.length).map fun k => q.1 ++ chainPath k := by
  rw [memberPlaces, List.map_map, List.range_eq_range', ← List.zipIdx_map_snd, List.map_map]
  rfl

theorem map_snd_memberPlaces (q : List Step × Tree) : (memberPlaces q).map Prod.snd = q.2.chain := by
  rw [memberPlaces, List.map_map]
  exact List.zipIdx_map_fst ..

theorem mem_map_fst_memberPlaces_iff {q : List Step × Tree} {p : List Step} :
    p ∈ (memberPlaces q).map Prod.fst ↔ ∃ k < q.2.chain.length, p = q.1 ++ chainPath k := by
  rw [map_fst_memberPlaces, List.mem_map]
  exact exists_congr fun k => and_congr List.mem_range eq_comm

theorem nodup_paths_memberPlaces (q : List Step × Tree) : ((memberPlaces q).map Prod.fst).Nodup := by
  rw [map_fst_memberPlaces]
  exact List.Nodup.map (fun i j h => chainPath_injective (List.append_cancel_left h)) List.nodup_range

/-- No `if` statement is a member of two chains, and none is a member twice. -/
theorem eq_of_chainPath_eq (ht : t.HasDistinctFields) (h : t.HasSingleAlternates) {head head' : List Step × Tree}
    (hhead : head ∈ t.headPlaces false) (hhead' : head' ∈ t.headPlaces false) {i j : Nat}
    (hi : i < head.2.chain.length) (hj : j < head'.2.chain.length)
    (heq : head.1 ++ chainPath i = head'.1 ++ chainPath j) : head = head' ∧ i = j := by
  have hnodup : (((t.headPlaces false).flatMap memberPlaces).map Prod.fst).Nodup :=
    ((places_perm_members ht h).map Prod.fst).nodup_iff.mp (nodup_paths_places ht)
  rw [List.map_flatMap, List.nodup_flatMap] at hnodup
  have hsame : head = head' := by
    -- Chains at different heads have no place in common.
    by_contra hne
    have : Std.Symm (Function.onFun List.Disjoint fun q : List Step × Tree => (memberPlaces q).map Prod.fst) :=
      ⟨fun _ _ hdisjoint _ hb ha => hdisjoint ha hb⟩
    exact hnodup.2.forall hhead hhead' hne (mem_map_fst_memberPlaces_iff.mpr ⟨i, hi, rfl⟩)
      (mem_map_fst_memberPlaces_iff.mpr ⟨j, hj, heq⟩)
  subst hsame
  exact ⟨rfl, chainPath_injective (List.append_cancel_left heq)⟩

end Tree
end Deflatten
