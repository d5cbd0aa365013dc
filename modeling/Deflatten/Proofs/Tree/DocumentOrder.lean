import Deflatten.Proofs.Tree.Members
/-!
# Document order

`Tree.IsBefore` says of two `if` statements of a tree which is visited first. What lies in a node is visited after it and
before anything else (`Tree.prefix_of_sublist_walk`), so between a member of a chain and a later one only what lies in the
chain is visited (`Tree.IsBefore.prefix_of_prefix`). The members of a chain are `if` statements of the tree
(`Tree.mem_places_along`), in any tree.
-/

namespace Deflatten

/-! ## The order of a list -/

section Order

variable {α : Type} {l : List α} {a b c : α}

/-- Of two items of a list one comes first. -/
theorem sublist_or_sublist_of_mem (ha : a ∈ l) (hb : b ∈ l) (hne : a ≠ b) :
    [a, b].Sublist l ∨ [b, a].Sublist l := by
  obtain ⟨before, after, rfl⟩ := List.append_of_mem ha
  rcases List.mem_append.mp hb with hb | hb
  · exact .inr ((List.singleton_sublist.mpr hb).append (List.singleton_sublist.mpr List.mem_cons_self))
  · rcases List.mem_cons.mp hb with rfl | hb
    · exact absurd rfl hne
    · exact .inl (((List.singleton_sublist.mpr hb).cons_cons a).trans (List.sublist_append_right ..))

/-- In a list that holds no item twice, what comes after an item is found behind it. -/
theorem sublist_of_sublist_pair (hl : l.Nodup) {as : List α} (hab : [a, b].Sublist l) (hbs : (b :: as).Sublist l) :
    (a :: b :: as).Sublist l := by
  induction l with
  | nil => cases hab
  | cons x l ih =>
    rw [List.nodup_cons] at hl
    rcases List.cons_sublist_cons'.mp hab with hrest | ⟨rfl, hb⟩
    · -- The second item is not the first of the list, so neither is what comes after it.
      rcases List.cons_sublist_cons'.mp hbs with hbs | ⟨rfl, -⟩
      · exact (ih hl.2 hrest hbs).cons x
      · exact absurd (hrest.subset (List.mem_cons_of_mem _ List.mem_cons_self)) hl.1
    · rcases List.cons_sublist_cons'.mp hbs with hrest | ⟨rfl, -⟩
      · exact hrest.cons_cons a
      · exact absurd (List.singleton_sublist.mp hb) hl.1

/-- In a list that holds no item twice, two items come in one order only. -/
theorem not_sublist_of_sublist (hl : l.Nodup) (h : [a, b].Sublist l) : ¬[b, a].Sublist l := by
  intro hswapped
  have htwice : [a, b, a].Nodup := hl.sublist (sublist_of_sublist_pair hl h hswapped)
  simp at htwice

/-- In a list that holds no item twice, an item is found exactly if it comes before all others that could be. -/
theorem find?_eq_some_iff_sublist (hl : l.Nodup) {P : α → Bool} :
    l.find? P = some a ↔ a ∈ l ∧ P a ∧ ∀ b ∈ l, P b → b ≠ a → [a, b].Sublist l := by
  have hfirst : ∀ {a : α}, l.find? P = some a → a ∈ l ∧ P a ∧ ∀ b ∈ l, P b → b ≠ a → [a, b].Sublist l := by
    intro a h
    obtain ⟨ha, before, after, rfl, hbefore⟩ := List.find?_eq_some_iff_append.mp h
    refine ⟨List.mem_append_right _ List.mem_cons_self, ha, fun b hb hP hne => ?_⟩
    rcases List.mem_append.mp hb with hb | hb
    · have hnot := hbefore b hb
      rw [hP] at hnot
      cases hnot
    · have hafter := (List.mem_cons.mp hb).resolve_left hne
      exact ((List.singleton_sublist.mpr hafter).cons_cons a).trans (List.sublist_append_right ..)
  refine ⟨hfirst, fun ⟨ha, hP, hothers⟩ => ?_⟩
  obtain ⟨b, hb⟩ := Option.isSome_iff_exists.mp (List.find?_isSome.mpr ⟨a, ha, hP⟩)
  obtain ⟨hmem, hPb, hlater⟩ := hfirst hb
  rw [hb]
  by_contra hne
  have hne : b ≠ a := fun heq => hne (congrArg some heq)
  exact not_sublist_of_sublist hl (hothers b hmem hPb hne) (hlater a ha hP hne.symm)

end Order

namespace Tree

variable {t : Tree}

/-! ## What is visited between -/

theorem exists_of_sublist_flatMap_below {cs : List (Step × Tree)} (hcs : (cs.map Prod.fst).Nodup)
    {f : Step × Tree → List (List Step)} {s : Step} {a b c : List Step}
    (h : [s :: a, b, s :: c].Sublist (cs.flatMap fun d => (f d).map (d.1 :: ·))) :
    ∃ d ∈ cs, [s :: a, b, s :: c].Sublist ((f d).map (d.1 :: ·)) := by
  induction cs with
  | nil => cases h
  | cons d cs ih =>
    rw [List.map_cons, List.nodup_cons] at hcs
    have hother : ∀ {p : List Step}, s :: p ∈ cs.flatMap (fun d => (f d).map (d.1 :: ·)) → s ≠ d.1 := by
      rintro p hp rfl
      obtain ⟨e, he, hp⟩ := List.mem_flatMap.mp hp
      obtain ⟨q, -, hq⟩ := List.mem_map.mp hp
      exact hcs.1 ((List.cons.inj hq).1 ▸ List.mem_map_of_mem he)
    have hown : ∀ {p : List Step}, s :: p ∈ (f d).map (d.1 :: ·) → s = d.1 := by
      intro p hp
      obtain ⟨q, -, hq⟩ := List.mem_map.mp hp
      exact (List.cons.inj hq).1.symm
    rw [List.flatMap_cons, List.sublist_append_iff] at h
    obtain ⟨first, rest, hsplit, hfirst, hrest⟩ := h
    -- The first path and the last one lie below one child, so all three do.
    match first, hsplit with
    | [], hsplit =>
      rw [List.nil_append] at hsplit
      obtain ⟨e, he, hsub⟩ := ih hcs.2 (hsplit ▸ hrest)
      exact ⟨e, List.mem_cons_of_mem _ he, hsub⟩
    | [x, y, z], hsplit =>
      obtain ⟨rfl, rfl, rfl, -⟩ : s :: a = x ∧ b = y ∧ s :: c = z ∧ [] = rest := by simpa using hsplit
      exact ⟨d, List.mem_cons_self, hfirst⟩
    | [x], hsplit =>
      obtain ⟨rfl, rfl⟩ : s :: a = x ∧ [b, s :: c] = rest := by simpa using hsplit
      exact absurd (hown (hfirst.subset List.mem_cons_self))
        (hother (hrest.subset (List.mem_cons_of_mem _ List.mem_cons_self)))
    | [x, y], hsplit =>
      obtain ⟨rfl, rfl, rfl⟩ : s :: a = x ∧ b = y ∧ [s :: c] = rest := by simpa using hsplit
      exact absurd (hown (hfirst.subset List.mem_cons_self)) (hother (hrest.subset List.mem_cons_self))
    | _ :: _ :: _ :: _ :: _, hsplit => simp at hsplit

/-- What is visited between a node and something in it lies in it too. -/
theorem prefix_of_sublist_walk (ht : t.HasDistinctFields) {a b c : List Step}
    (h : [a, b, c].Sublist (t.walk.map Visit.path)) (hinside : a <+: c) : a <+: b := by
  induction t using induction_children generalizing a b c with
  | step t ih =>
    rw [map_path_walk] at h
    rcases List.cons_sublist_cons'.mp h with h | ⟨rfl, -⟩
    · cases a with
      | nil => exact List.nil_prefix
      | cons s a =>
        obtain ⟨c, rfl⟩ := hinside
        obtain ⟨d, hd, hsub⟩ := exists_of_sublist_flatMap_below (nodup_steps_children ht.self) h
        obtain ⟨ps, hps, heq⟩ := List.sublist_map_iff.mp hsub
        match ps, heq with
        | [a', b', c'], heq =>
          obtain ⟨⟨rfl, rfl⟩, rfl, -, rfl⟩ : (s = d.1 ∧ a = a') ∧ b = d.1 :: b' ∧ s = d.1 ∧ a ++ c = c' := by
            simpa using heq
          exact List.cons_prefix_cons.mpr ⟨rfl, ih d hd (ht.child hd) hps (List.prefix_append ..)⟩
    · exact List.nil_prefix

/-! ## The order of `if` statements -/

/-- Of two `if` statements of a tree, given by their paths, the first is visited before the other. -/
def IsBefore (t : Tree) (p p' : List Step) : Prop := [p, p'].Sublist (t.places.map Prod.fst)

instance (t : Tree) (p p' : List Step) : Decidable (t.IsBefore p p') :=
  inferInstanceAs (Decidable ([p, p'].Sublist _))

variable {q r : List Step × Tree} {p p' p'' : List Step}

theorem nodup_places (ht : t.HasDistinctFields) : t.places.Nodup := (nodup_paths_places ht).of_map Prod.fst

/-- No `if` statement is visited before one that it is part of. -/
theorem IsBefore.not_inside (ht : t.HasDistinctFields) (h : t.IsBefore p p') : ¬p' <+: p := by
  have hpair : [p, p'].Pairwise fun p p' => ¬p' <+: p := (pairwise_not_prefix_places ht).sublist h
  simpa using hpair

/-- An `if` statement is visited before those in it. -/
theorem isBefore_of_inside (ht : t.HasDistinctFields) (hq : q ∈ t.places) (hr : r ∈ t.places) (hne : q.1 ≠ r.1)
    (h : q.1 <+: r.1) : t.IsBefore q.1 r.1 := by
  rcases sublist_or_sublist_of_mem (List.mem_map_of_mem hq) (List.mem_map_of_mem hr) hne with hbefore | hafter
  · exact hbefore
  · exact absurd h (IsBefore.not_inside ht hafter)

theorem IsBefore.trans (ht : t.HasDistinctFields) (h : t.IsBefore p p') (h' : t.IsBefore p' p'') : t.IsBefore p p'' :=
  (((List.Sublist.refl [p'']).cons p').cons_cons p).trans (sublist_of_sublist_pair (nodup_paths_places ht) h h')

/-- An `if` statement that is visited between one and another in it lies in the first one. -/
theorem IsBefore.prefix_of_prefix (ht : t.HasDistinctFields) (h : t.IsBefore p p') (h' : t.IsBefore p' p'')
    (hinside : p <+: p'') : p <+: p' := by
  refine prefix_of_sublist_walk ht ?_ hinside
  have hplaces : (t.places.map Prod.fst).Sublist (t.walk.map Visit.path) := by
    rw [places, List.map_map]
    exact (List.filter_sublist : t.conditionals.Sublist t.walk).map Visit.path
  exact (sublist_of_sublist_pair (nodup_paths_places ht) h h').trans hplaces

/-! ## Members along a chain -/

theorem Leads.append {u v : Tree} {p p' : List Step} (h : t.Leads p u) (h' : u.Leads p' v) : t.Leads (p ++ p') v := by
  induction h with
  | here => exact h'
  | child hc _ ih => exact .child hc (ih h')

theorem leads_of_mem_walk {v : Visit} (h : v ∈ t.walk) : t.Leads v.path v.node := by
  induction t using induction_children generalizing v with
  | step t ih =>
    rcases root_or_below_of_mem_walk h with rfl | ⟨hne, -⟩
    · exact .here t
    · obtain ⟨c, hc, u, hu, rfl⟩ := mem_walk_below h hne
      exact .child hc (ih c hc hu)

/-- The `if` statements of a tree with their paths are those that a path leads to. -/
theorem mem_places_iff : q ∈ t.places ↔ t.Leads q.1 q.2 ∧ q.2.isConditional := by
  rw [places, List.mem_map]
  constructor
  · rintro ⟨v, hv, rfl⟩
    obtain ⟨hwalk, hcond⟩ := List.mem_filter.mp hv
    exact ⟨leads_of_mem_walk hwalk, hcond⟩
  · rintro ⟨hlead, hcond⟩
    obtain ⟨v, hv, hpath, hnode⟩ := exists_mem_walk_of_leads hlead
    exact ⟨v, List.mem_filter.mpr ⟨hv, by rw [hnode]; exact hcond⟩, Prod.ext hpath hnode⟩

theorem leads_chainPath {u : Tree} {k : Nat} (h : t.chain[k]? = some u) : t.Leads (chainPath k) u := by
  induction t using chain_induction generalizing k with
  | stop t hstop =>
    rw [chain_of_not_isConditional hstop] at h
    cases h
  | member t hcond ih =>
    rw [chain_eq hcond] at h
    cases k with
    | zero =>
      rw [← Option.some.inj h]
      exact .here t
    | succ k =>
      have hrest : (t.get "alternate").chain[k]? = some u := h
      have hnext := isConditional_of_getElem?_chain hrest
      exact .child (get_mem_children (isNode_of_isConditional hcond) rfl (isNode_of_isConditional hnext)) (ih hrest)

/-- The members of a chain from an `if` statement on are `if` statements of the tree. -/
theorem mem_places_along (hq : q ∈ t.places) {k : Nat} {u : Tree} (hk : q.2.chain[k]? = some u) :
    (q.1 ++ chainPath k, u) ∈ t.places := by
  obtain ⟨hlead, -⟩ := mem_places_iff.mp hq
  exact mem_places_iff.mpr ⟨hlead.append (leads_chainPath hk), isConditional_of_mem_chain (List.mem_of_getElem? hk)⟩

/-- An `if` statement that is reached along a chain is the member of the chain there. -/
theorem getElem?_chain_of_path (ht : t.HasDistinctFields) (hq : q ∈ t.places) (hr : r ∈ t.places) {k : Nat}
    (hk : k < q.2.chain.length) (hpath : r.1 = q.1 ++ chainPath k) : q.2.chain[k]? = some r.2 := by
  have hmember := mem_places_along hq (List.getElem?_eq_getElem hk)
  have hsame : r = (q.1 ++ chainPath k, q.2.chain[k]) := eq_of_mem_places ht hr hmember hpath
  rw [hsame]
  exact List.getElem?_eq_getElem hk

end Tree
end Deflatten
