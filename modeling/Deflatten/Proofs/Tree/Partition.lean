import Deflatten.Proofs.Tree.Traversal
import Mathlib.Algebra.GroupWithZero.Nat
/-!
# Chains as a partition

`Visit.IsMemberOf` says that a visit is that of a member of the chain at a visited head. Where every `else` part is one
statement or none, each `if` statement is a member of the chain at exactly one head (`Tree.chains_partition`). In any tree
the members of a chain are visited in chain order, each one level deeper than the one before: the depth of a visit grows
along its path by the conditionals and blocks on the way (`Tree.depth_of_path_eq_append`).
-/

namespace Deflatten

/-- A visit is that of a member of the chain at a visited head: its path goes on from there along the chain. -/
def Visit.IsMemberOf (v head : Visit) : Prop :=
  ∃ k < head.node.chain.length, v.path = head.path ++ chainPath k

instance (v head : Visit) : Decidable (v.IsMemberOf head) :=
  inferInstanceAs (Decidable (∃ k < head.node.chain.length, v.path = head.path ++ chainPath k))

namespace Tree

variable {t u : Tree} {v w head : Visit}

/-! ## Depth along a path -/

theorem ancestors_append {p : List Step} (h : t.at? p = some u) (q : List Step) :
    t.ancestors (p ++ q) = t.ancestors p ++ u.ancestors q := by
  induction p generalizing t with
  | nil =>
    obtain rfl := Option.some.inj h
    rfl
  | cons s p ih =>
    obtain ⟨c, hc, hrest⟩ := Option.bind_eq_some_iff.mp h
    simp only [List.cons_append, ancestors, hc, ih hrest]

/-- The way along a chain goes through its members. -/
theorem ancestors_chainPath {k : Nat} (hk : k < t.chain.length) : t.ancestors (chainPath k) = t.chain.take k := by
  induction t using chain_induction generalizing k with
  | stop t hstop =>
    rw [chain_of_not_isConditional hstop] at hk
    cases hk
  | member t hcond ih =>
    rw [chain_eq hcond] at hk ⊢
    cases k with
    | zero => rfl
    | succ k =>
      have hrest : k < (t.get "alternate").chain.length := Nat.lt_of_succ_lt_succ hk
      have hnext := isConditional_of_getElem?_chain (List.getElem?_eq_getElem hrest)
      have hstep : t.step? alternateStep = some (t.get "alternate") := field?_of_isNode_get (isNode_of_isConditional hnext)
      rw [chainPath_succ, ancestors, hstep, List.take_succ_cons]
      exact congrArg (t :: ·) (ih hrest)

/-- Below a visited node depths grow by the conditionals and blocks on the way from there. -/
theorem depth_of_path_eq_append (ht : t.HasDistinctFields) (hv : v ∈ t.walk) (hw : w ∈ t.walk) {p : List Step}
    (h : w.path = v.path ++ p) :
    w.depth = v.depth + (v.node.ancestors p).countP fun u => u.isConditional || u.isBlock := by
  have hat : t.at? v.path = some v.node := at?_of_leads ht (leads_of_mem_walk hv)
  rw [(surroundings_of_mem_walk ht hw).2, (surroundings_of_mem_walk ht hv).2, h, ancestors_append hat, List.countP_append]

/-- What lies in an `if` statement lies deeper. -/
theorem depth_lt_of_inside (ht : t.HasDistinctFields) (hv : v ∈ t.walk) (hw : w ∈ t.walk) (hcond : v.node.isConditional)
    (h : v.path <+: w.path) (hne : v.path ≠ w.path) : v.depth < w.depth := by
  obtain ⟨p, hp⟩ := h
  rw [depth_of_path_eq_append ht hv hw hp.symm]
  cases p with
  | nil => exact absurd ((List.append_nil _).symm.trans hp) hne
  | cons s p =>
    -- The `if` statement itself is the first on the way.
    rw [ancestors, List.countP_cons, hcond, Bool.true_or, if_pos rfl]
    omega

/-! ## The visits of the members of a chain -/

/-- The visits of the members of the chain at a visited head, in document order. -/
def memberVisits (t : Tree) (head : Visit) : List Visit := t.walk.filter fun v => v.IsMemberOf head

theorem mem_memberVisits_iff : v ∈ t.memberVisits head ↔ v ∈ t.walk ∧ v.IsMemberOf head := by
  rw [memberVisits, List.mem_filter, decide_eq_true_iff]

theorem memberVisits_sublist_walk (t : Tree) (head : Visit) : (t.memberVisits head).Sublist t.walk :=
  List.filter_sublist

/-- At the path along a chain its member is visited, as much deeper as members precede it. -/
theorem node_and_depth_of_member (ht : t.HasDistinctFields) (hhead : head ∈ t.walk) (hv : v ∈ t.walk) {k : Nat}
    (hk : head.node.chain[k]? = some u) (hpath : v.path = head.path ++ chainPath k) :
    v.node = u ∧ v.depth = head.depth + k := by
  obtain ⟨hlt, -⟩ := List.getElem?_eq_some_iff.mp hk
  constructor
  · have hlead : t.Leads v.path u := hpath ▸ (leads_of_mem_walk hhead).append (leads_chainPath hk)
    exact Option.some.inj ((at?_of_leads ht (leads_of_mem_walk hv)).symm.trans (at?_of_leads ht hlead))
  · have hcond : ∀ m ∈ head.node.chain.take k, m.isConditional || m.isBlock := by
      intro m hm
      rw [isConditional_of_mem_chain (List.mem_of_mem_take hm), Bool.true_or]
    rw [depth_of_path_eq_append ht hhead hv hpath, ancestors_chainPath hlt, List.countP_eq_length.mpr hcond,
      List.length_take, Nat.min_eq_left (Nat.le_of_lt hlt)]

theorem prefix_chainPath {p : List Step} {i j : Nat} (h : i ≤ j) : p ++ chainPath i <+: p ++ chainPath j := by
  obtain ⟨d, rfl⟩ := Nat.exists_eq_add_of_le h
  exact ⟨chainPath d, by rw [List.append_assoc, chainPath_append]⟩

/-- The members of a chain are visited in chain order, at the paths along the chain. -/
theorem map_path_memberVisits (ht : t.HasDistinctFields) (hhead : head ∈ t.walk) :
    (t.memberVisits head).map Visit.path = (List.range head.node.chain.length).map fun k => head.path ++ chainPath k := by
  have hsub : ((t.memberVisits head).map Visit.path).Sublist (t.walk.map Visit.path) :=
    (memberVisits_sublist_walk t head).map Visit.path
  -- The same paths occur in both lists.
  have hsame : ∀ p, p ∈ (t.memberVisits head).map Visit.path ↔
      p ∈ (List.range head.node.chain.length).map fun k => head.path ++ chainPath k := by
    intro p
    simp only [List.mem_map, mem_memberVisits_iff, List.mem_range]
    constructor
    · rintro ⟨v, ⟨-, k, hk, hpath⟩, rfl⟩
      exact ⟨k, hk, hpath.symm⟩
    · rintro ⟨k, hk, rfl⟩
      obtain ⟨v, hv, hpath, -⟩ := exists_mem_walk_of_leads
        ((leads_of_mem_walk hhead).append (leads_chainPath (List.getElem?_eq_getElem hk)))
      exact ⟨v, ⟨hv, k, hk, hpath⟩, hpath⟩
  have hnodup : ((List.range head.node.chain.length).map fun k => head.path ++ chainPath k).Nodup :=
    List.nodup_range.map fun i j h => chainPath_injective (List.append_cancel_left h)
  -- Of two paths along a chain one is a prefix of the other, and in both lists no path is a prefix of an earlier one.
  refine @List.Perm.eq_of_pairwise _ (fun p q => ¬q <+: p) _ _ ?_ ((pairwise_not_prefix_walk ht).sublist hsub) ?_
    ((List.perm_ext_iff_of_nodup ((nodup_paths_walk ht).sublist hsub) hnodup).mpr hsame)
  · intro p q hp hq hpq hqp
    obtain ⟨i, -, rfl⟩ := List.mem_map.mp ((hsame p).mp hp)
    obtain ⟨j, -, rfl⟩ := List.mem_map.mp hq
    rcases Nat.le_total i j with hij | hji
    · exact absurd (prefix_chainPath hij) hqp
    · exact absurd (prefix_chainPath hji) hpq
  · rw [List.pairwise_map]
    refine List.pairwise_lt_range.imp fun {i j} hij hprefix => ?_
    have hlength := hprefix.length_le
    simp only [List.length_append, chainPath, List.length_replicate] at hlength
    omega

/-- The members of a chain are visited in chain order, each one level deeper than the one before. -/
theorem nodes_and_depths_of_memberVisits (ht : t.HasDistinctFields) (hhead : head ∈ t.walk) :
    (t.memberVisits head).map Visit.node = head.node.chain ∧
      (t.memberVisits head).map Visit.depth = (List.range head.node.chain.length).map fun k => head.depth + k := by
  have hpaths := map_path_memberVisits ht hhead
  have hlength : (t.memberVisits head).length = head.node.chain.length := by
    simpa using congrArg List.length hpaths
  have hmember : ∀ (k : Nat) (hk : k < (t.memberVisits head).length) (hk' : k < head.node.chain.length),
      (t.memberVisits head)[k].node = head.node.chain[k] ∧ (t.memberVisits head)[k].depth = head.depth + k := by
    intro k hk hk'
    have hpath : (t.memberVisits head)[k].path = head.path ++ chainPath k := by
      have hget := congrArg (·[k]?) hpaths
      simpa [List.getElem?_eq_getElem hk, hk'] using hget
    exact node_and_depth_of_member ht hhead (mem_memberVisits_iff.mp (List.getElem_mem hk)).1
      (List.getElem?_eq_getElem hk') hpath
  constructor
  · refine List.ext_getElem (by rw [List.length_map, hlength]) fun k hk hk' => ?_
    rw [List.getElem_map]
    exact (hmember k (by rwa [List.length_map] at hk) hk').1
  · refine List.ext_getElem (by rw [List.length_map, List.length_map, List.length_range, hlength]) fun k hk hk' => ?_
    rw [List.length_map, List.length_range] at hk'
    rw [List.getElem_map, List.getElem_map, List.getElem_range]
    exact (hmember k (by rwa [List.length_map] at hk) hk').2

/-! ## The partition -/

/-- The tail is the one member of a chain whose `else` part is no `if` statement. -/
theorem filter_chain_last (h : t.isConditional) :
    (t.chain.filter fun u => !(u.get "alternate").isConditional) = [t.chainTail] := by
  induction t using chain_induction with
  | stop t hstop =>
    rw [hstop] at h
    cases h
  | member t hcond ih =>
    rw [chain_eq hcond, List.filter_cons]
    cases hnext : (t.get "alternate").isConditional with
    | true =>
      rw [chainTail_of_more hcond hnext]
      exact ih hnext
    | false =>
      rw [chainTail_of_last hcond hnext, chain_of_not_isConditional hnext]
      rfl

/-- The members of the chains at all heads are as many as the `if` statements. -/
theorem sum_length_chains (ht : t.HasDistinctFields) (h : t.HasSingleAlternates) :
    ((DepthIndex.heads t).map fun head => head.node.chain.length).sum = t.conditionals.length := by
  have hmembers : ∀ q : List Step × Tree, (memberPlaces q).length = q.2.chain.length := fun q => by
    rw [← map_snd_memberPlaces, List.length_map]
  have hlength := (places_perm_members ht h).length_eq
  rw [places, List.length_map, List.length_flatMap, ← heads_eq_headPlaces, List.map_map] at hlength
  simp only [Function.comp_def, hmembers] at hlength
  exact hlength.symm

theorem exists_mem_heads_of_mem_headPlaces {q : List Step × Tree} (h : q ∈ t.headPlaces false) :
    ∃ head ∈ DepthIndex.heads t, (head.path, head.node) = q := by
  rw [← heads_eq_headPlaces] at h
  exact List.mem_map.mp h

theorem mem_headPlaces_of_mem_heads (h : head ∈ DepthIndex.heads t) : (head.path, head.node) ∈ t.headPlaces false := by
  rw [← heads_eq_headPlaces]
  exact List.mem_map_of_mem h

/-- Each `if` statement is a member of the chain at exactly one head. The members of a chain are visited in chain order,
each one level deeper than the one before, and its tail is the one member whose `else` part is no `if` statement. The
lengths of the chains add up to the number of `if` statements. -/
theorem chains_partition (ht : t.HasDistinctFields) (h : t.HasSingleAlternates) :
    (∀ v ∈ t.conditionals, ∃! head, head ∈ DepthIndex.heads t ∧ v.IsMemberOf head) ∧
      (∀ head ∈ DepthIndex.heads t,
        (t.memberVisits head).map Visit.node = head.node.chain ∧
          (t.memberVisits head).map Visit.depth =
            (List.range head.node.chain.length).map (fun k => head.depth + k) ∧
          (head.node.chain.filter fun u => !(u.get "alternate").isConditional) = [head.node.chainTail]) ∧
      ((DepthIndex.heads t).map fun head => head.node.chain.length).sum = t.conditionals.length := by
  refine ⟨?_, ?_, sum_length_chains ht h⟩
  · intro v hv
    have hplace : (v.path, v.node) ∈ t.places := List.mem_map_of_mem hv
    obtain ⟨q, hq, k, hk, hpath⟩ := exists_head_of_mem_places ht h hplace
    obtain ⟨head, hhead, rfl⟩ := exists_mem_heads_of_mem_headPlaces hq
    have hlt : k < head.node.chain.length := (List.getElem?_eq_some_iff.mp hk).1
    refine ⟨head, ⟨hhead, k, hlt, hpath⟩, ?_⟩
    -- Two ways from a head along its chain to one place begin at one head, and no two heads are visited at one path.
    rintro head' ⟨hhead', j, hj, hpath'⟩
    obtain ⟨hsame, -⟩ := eq_of_chainPath_eq ht h (mem_headPlaces_of_mem_heads hhead') hq hj hlt (hpath'.symm.trans hpath)
    exact List.inj_on_of_nodup_map (DepthIndex.nodup_paths_heads ht) hhead' hhead (Prod.mk.inj hsame).1
  · intro head hhead
    obtain ⟨hwalk, hcond, -⟩ := DepthIndex.mem_heads_iff.mp hhead
    obtain ⟨hnodes, hdepths⟩ := nodes_and_depths_of_memberVisits ht hwalk
    exact ⟨hnodes, hdepths, filter_chain_last hcond⟩

/-- A script with a chain that holds others in a branch without braces, in a test and in its `else` block:
`if (s === 0) if (s === 1) { a(); } else { b(); } else if (function () { if (s === 2) { c(); } }) { } else { if (s === 3)
{ d(); } } if (s === 4) { e(); }`. -/
def scatteredChains : Tree :=
  scriptOf [
    .ifThen (SelectorTest.equals (.text "s") (.int 0)).toTree
      (.ifThen (SelectorTest.equals (.text "s") (.int 1)).toTree (blockOf [callOf "a"]) (blockOf [callOf "b"]))
      (.ifThen
        (.node "FunctionExpression" [("params", .list []), ("body", blockOf [
          .ifThen (SelectorTest.equals (.text "s") (.int 2)).toTree (blockOf [callOf "c"]) .null])])
        (blockOf [])
        (blockOf [.ifThen (SelectorTest.equals (.text "s") (.int 3)).toTree (blockOf [callOf "d"]) .null])),
    .ifThen (SelectorTest.equals (.text "s") (.int 4)).toTree (blockOf [callOf "e"]) .null]

/-- Of the six `if` statements only the second member of the first chain heads none. -/
theorem chains_partition_scatteredChains :
    scatteredChains.HasDistinctFields ∧ scatteredChains.HasSingleAlternates ∧
      (∀ v ∈ scatteredChains.conditionals, ∃! head, head ∈ DepthIndex.heads scatteredChains ∧ v.IsMemberOf head) ∧
      ((DepthIndex.heads scatteredChains).map fun head => (scatteredChains.memberVisits head).map Visit.depth) =
        [[0, 1], [1], [3], [3], [0]] ∧
      ((DepthIndex.heads scatteredChains).map fun head => head.node.chain.length).sum = 6 := by
  have hfields : scatteredChains.HasDistinctFields := by decide +kernel
  have hsingle : scatteredChains.HasSingleAlternates := by decide +kernel
  have hcount : scatteredChains.conditionals.length = 6 := by decide +kernel
  obtain ⟨hunique, -, hsum⟩ := chains_partition hfields hsingle
  exact ⟨hfields, hsingle, hunique, by decide +kernel, hsum.trans hcount⟩

end Tree
end Deflatten
