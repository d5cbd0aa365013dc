import Deflatten.Proofs.Dispatch.Starts
/-!
# Collected ends of chains

In any tree whose `else` parts are one statement or none, the starts are the first bottom-level members of the chains
(`Tree.starts_eq_firstBottomLevels`). So the blocks that the collector finds are those of the ends of chains, each from
the first bottom-level member of its chain on, in the order in which these members are visited
(`BlockCollector.collect_eq_firstBottomLevels`).
-/

namespace Deflatten

namespace Tree

variable {t : Tree}

/-! ## First bottom-level members -/

/-- The path to the first bottom-level member of the chain at a place, if there is one. -/
def firstBottomLevel? (head : List Step × Tree) : Option (List Step) :=
  (head.2.chain.findIdx? isBottomLevel).map fun k => head.1 ++ chainPath k

/-- Whether at a place stands the first bottom-level member of a chain of a tree. -/
def isFirstBottomLevel (t : Tree) (q : List Step × Tree) : Bool :=
  ((t.headPlaces false).filterMap firstBottomLevel?).contains q.1

/-- The first bottom-level members of the chains of a tree in document order, each with the path to it. -/
def firstBottomLevels (t : Tree) : List (List Step × Tree) := t.places.filter t.isFirstBottomLevel

theorem firstBottomLevel?_eq_some {head : List Step × Tree} {p : List Step} (h : firstBottomLevel? head = some p) :
    ∃ k u, head.2.chain.findIdx? isBottomLevel = some k ∧ head.2.chain[k]? = some u ∧ u.isBottomLevel ∧
      p = head.1 ++ chainPath k := by
  obtain ⟨k, hk, rfl⟩ := Option.map_eq_some_iff.mp h
  obtain ⟨hlt, hbottom, -⟩ := List.findIdx?_eq_some_iff_getElem.mp hk
  exact ⟨k, head.2.chain[k], hk, List.getElem?_eq_getElem hlt, hbottom, rfl⟩

variable (ht : t.HasDistinctFields) (hs : t.HasSingleAlternates)

include ht hs in
/-- The first bottom-level members, each in the chain at its head. -/
theorem exists_head_of_isFirstBottomLevel {q : List Step × Tree} (hq : q ∈ t.places)
    (h : t.isFirstBottomLevel q) :
    ∃ head ∈ t.headPlaces false, ∃ k, head.2.chain.findIdx? isBottomLevel = some k ∧ head.2.chain[k]? = some q.2 ∧
      q.2.isBottomLevel ∧ q.1 = head.1 ++ chainPath k := by
  obtain ⟨head, hhead, hfirst⟩ := List.mem_filterMap.mp (List.contains_iff_mem.mp h)
  obtain ⟨k, u, hk, hmember, hbottom, hpath⟩ := firstBottomLevel?_eq_some hfirst
  have hplace := mem_places_of_mem_chain ht hs hhead hmember
  obtain rfl := eq_of_mem_places ht hq hplace hpath
  exact ⟨head, hhead, k, hk, hmember, hbottom, rfl⟩

include ht in
theorem nodup_paths_firstBottomLevels : (t.firstBottomLevels.map Prod.fst).Nodup :=
  (nodup_paths_places ht).sublist (List.filter_sublist.map Prod.fst)

include ht hs in
/-- Where every `else` part is one statement or none, the starts are the first bottom-level members of the chains. -/
theorem isStart_iff_isFirstBottomLevel {q : List Step × Tree} (hq : q ∈ t.places) :
    t.IsStart q ↔ t.isFirstBottomLevel q := by
  constructor
  · intro h
    obtain ⟨head, hhead, j, hj, hqpath⟩ := exists_head_of_mem_places ht hs hq
    obtain ⟨hjlt, hjq⟩ := List.getElem?_eq_some_iff.mp hj
    -- The chain has a bottom-level member, and so a first one, from which this one is reached.
    obtain ⟨k, hk⟩ : ∃ k, head.2.chain.findIdx? isBottomLevel = some k := by
      rw [← Option.isSome_iff_exists, List.findIdx?_isSome, List.any_eq_true]
      exact ⟨q.2, List.mem_of_getElem? hj, h.isBottomLevel⟩
    obtain ⟨hklt, hkbottom, hbefore⟩ := List.findIdx?_eq_some_iff_getElem.mp hk
    have hle : k ≤ j := by
      by_contra hgt
      exact hbefore j (by omega) (hjq ▸ h.isBottomLevel)
    have hplace := mem_places_of_mem_chain ht hs hhead (List.getElem?_eq_getElem hklt)
    have hpath : q.1 = (head.1 ++ chainPath k) ++ chainPath (j - k) := by
      rw [hqpath, List.append_assoc, chainPath_append, Nat.add_sub_cancel' hle]
    have hzero : j - k = 0 := by
      refine h.first _ hplace hkbottom (j - k) ?_ hpath
      rw [chain_of_getElem? (List.getElem?_eq_getElem hklt), List.length_drop]
      omega
    rw [hzero] at hpath
    refine List.contains_iff_mem.mpr (List.mem_filterMap.mpr ⟨head, hhead, ?_⟩)
    rw [firstBottomLevel?, hk, hpath.trans (List.append_nil _)]
    rfl
  · intro h
    obtain ⟨head, hhead, k, hk, hmember, hbottom, hqpath⟩ := exists_head_of_isFirstBottomLevel ht hs hq h
    obtain ⟨hklt, -, hbefore⟩ := List.findIdx?_eq_some_iff_getElem.mp hk
    refine ⟨hbottom, fun r hr hrbottom i hi hpath => ?_⟩
    -- A bottom-level member from which this one is reached belongs to its chain, and so is not before it.
    obtain ⟨head', hhead', j, hj, hrpath⟩ := exists_head_of_mem_places ht hs hr
    obtain ⟨hjlt, hjr⟩ := List.getElem?_eq_some_iff.mp hj
    rw [chain_of_getElem? hj, List.length_drop] at hi
    have hsame : head'.1 ++ chainPath (j + i) = head.1 ++ chainPath k := by
      rw [← chainPath_append, ← List.append_assoc, ← hrpath, ← hpath, hqpath]
    obtain ⟨rfl, hindex⟩ := eq_of_chainPath_eq ht hs hhead' hhead (by omega) hklt hsame
    by_contra hne
    exact hbefore j (by omega) (hjr ▸ hrbottom)

include ht hs in
theorem starts_eq_firstBottomLevels : t.starts = t.firstBottomLevels := by
  refine List.filter_congr fun q hq => ?_
  rw [Bool.eq_iff_iff, decide_eq_true_iff]
  exact isStart_iff_isFirstBottomLevel ht hs hq

end Tree

namespace BlockCollector

open Deflatten.Tree

variable {name : String} {t : Tree} {s : Progress}

/-! ## Trees that can be collected -/

/-- The statements of every block of a tree can be printed, and the values for which a variable is tested have few enough
digits. -/
structure IsPrintable (name : String) (t : Tree) : Prop where
  blocks : ∀ u ∈ t.nodes, u.isBlock → (Script.printStatements (u.get "body").items).isOk
  values : ∀ u ∈ t.nodes, (branchTest? name u).all fun test => test.value.isWritable

instance (name : String) (t : Tree) : Decidable (IsPrintable name t) :=
  decidable_of_iff
    ((∀ u ∈ t.nodes, u.isBlock → (Script.printStatements (u.get "body").items).isOk) ∧
      ∀ u ∈ t.nodes, (branchTest? name u).all fun test => test.value.isWritable)
    ⟨fun ⟨hblocks, hvalues⟩ => ⟨hblocks, hvalues⟩, fun h => ⟨h.blocks, h.values⟩⟩

theorem IsPrintable.of_mem_nodes {u : Tree} (h : IsPrintable name t) (hu : u ∈ t.nodes) : IsPrintable name u :=
  ⟨fun w hw => h.blocks w (nodes_subset hu hw), fun w hw => h.values w (nodes_subset hu hw)⟩

theorem exists_printed_of_isOk {e : Except Script.Error String} (h : e.isOk) : ∃ code, e = .ok code := by
  cases e with
  | ok code => exact ⟨code, rfl⟩
  | error _ => cases h

theorem IsPrintable.exists_printed {u : Tree} (h : IsPrintable name t) (hu : u.isNode → u ∈ t.nodes) {body : List Tree}
    (hbody : u.blockBody? = some body) : ∃ code, Script.printStatements body = .ok code := by
  rw [blockBody?] at hbody
  split at hbody
  · rename_i hblock
    rw [← Option.some.inj hbody]
    exact exists_printed_of_isOk (h.blocks u (hu (isNode_of_hasTag hblock)) hblock)
  · cases hbody

/-- The branches of a chain can be written. -/
theorem IsPrintable.isWritten (h : IsPrintable name t) {arm : Option SelectorTest × Tree} (harm : arm ∈ t.arms) :
    IsWritten name arm := by
  intro test htest htests
  obtain ⟨member, hmember, rfl⟩ := List.mem_map.mp harm
  have htest : SelectorTest.ofConditional? member = some test := htest
  have hvalue := h.values member (mem_nodes_of_mem_chain hmember)
  rw [branchTest?, htest, Option.filter_some, if_pos htests, Option.all_some] at hvalue
  refine ⟨hvalue, ?_⟩
  cases hbody : (member.get "consequent").blockBody? with
  | none => exact ⟨_, rfl⟩
  | some body => exact h.exists_printed (fun hnode => arm_mem_nodes harm hnode) hbody

variable (ht : t.HasDistinctFields) (hs : t.HasSingleAlternates) (hprint : IsPrintable name t)

include hprint in
/-- The visits of `if` statements whose branches can be written succeed. -/
theorem exists_reaches_places {qs : List (TreePath × Tree)} (hqs : qs ⊆ t.places) (s : Progress) :
    ∃ s', Reaches (qs.forM (visitPlace name)) s s' := by
  induction qs generalizing s with
  | nil => exact ⟨s, reaches_pure s⟩
  | cons q qs ih =>
    have hrest := fun s₁ => ih (fun r hr => hqs (List.mem_cons_of_mem _ hr)) s₁
    cases hskip : s.covered.contains q.1 || !q.2.isBottomLevel with
    | true =>
      obtain ⟨s', hothers⟩ := hrest s
      exact ⟨s', (reaches_visit_skipped hskip).cons hothers⟩
    | false =>
      have hplace : q ∈ t.places := hqs List.mem_cons_self
      have hprintq : IsPrintable name q.2 := hprint.of_mem_nodes (mem_nodes_of_mem_places hplace)
      have hcond : q.2.isConditional := isConditional_of_mem_places hplace
      obtain ⟨s₁, hchain⟩ := exists_reaches_takeChain s (fun arm harm => hprintq.isWritten harm)
        fun body hbody _ => hprintq.exists_printed (fun hnode => finalElse_mem_nodes hcond hnode) hbody
      obtain ⟨s', hothers⟩ := hrest _
      exact ⟨s', (reaches_visit_taken hskip hchain).cons hothers⟩

/-! ## Branches with their paths -/

/-- The branches of a chain that have a block, each with the path to it: those of its members in chain order, and then its
final `else`. -/
def chainBranches (name : String) (q : TreePath × Tree) : List (TreePath × LeafBlock) :=
  (memberPlaces q).filterMap (fun m =>
      (leafBlock? name (SelectorTest.ofConditional? m.2, m.2.get "consequent")).map fun b =>
        (m.1 ++ [ElseGuard.consequentStep], b)) ++
    ((elseBlock? name q.2).map fun b => (q.1 ++ chainPath q.2.chain.length, b)).toList

theorem map_snd_chainBranches (name : String) (q : TreePath × Tree) :
    (chainBranches name q).map Prod.snd = chainBlocks name q.2 := by
  have hmembers : q.2.arms.filterMap (leafBlock? name) = (memberPlaces q).filterMap fun m =>
      leafBlock? name (SelectorTest.ofConditional? m.2, m.2.get "consequent") := by
    rw [arms, ← map_snd_memberPlaces, List.map_map, List.filterMap_map]
    rfl
  rw [chainBranches, chainBlocks, hmembers, List.map_append, List.map_filterMap]
  congr 1
  · refine List.filterMap_congr fun m _ => ?_
    rw [Option.map_map]
    exact Option.map_id' ..
  · cases elseBlock? name q.2 <;> rfl

theorem length_chain_pos_of_elseBlock? {b : LeafBlock} (h : elseBlock? name t = some b) : 0 < t.chain.length := by
  rw [List.length_pos_iff]
  intro hnil
  rw [elseBlock?, hnil] at h
  cases h

/-- Every branch of a chain stands one step below a member. -/
theorem exists_member_of_mem_chainBranches {q : TreePath × Tree} {p : TreePath}
    (h : p ∈ (chainBranches name q).map Prod.fst) :
    ∃ k < q.2.chain.length, ∃ step, p = q.1 ++ chainPath k ++ [step] := by
  rw [chainBranches, List.map_append] at h
  rcases List.mem_append.mp h with hmem | hmem
  · obtain ⟨x, hx, rfl⟩ := List.mem_map.mp hmem
    obtain ⟨m, hm, hblock⟩ := List.mem_filterMap.mp hx
    obtain ⟨b, -, rfl⟩ := Option.map_eq_some_iff.mp hblock
    obtain ⟨k, hk, hpath⟩ := mem_memberPlaces_iff.mp hm
    obtain ⟨hlt, -⟩ := List.getElem?_eq_some_iff.mp hk
    exact ⟨k, hlt, _, by rw [hpath]⟩
  · cases helse : elseBlock? name q.2 with
    | none =>
      rw [helse] at hmem
      cases hmem
    | some b =>
      rw [helse] at hmem
      obtain rfl := List.mem_singleton.mp hmem
      have hpos := length_chain_pos_of_elseBlock? helse
      refine ⟨q.2.chain.length - 1, by omega, alternateStep, ?_⟩
      rw [List.append_assoc, chainPath_snoc, Nat.sub_add_cancel hpos]

/-- No branch of a chain comes twice. -/
theorem nodup_paths_chainBranches (name : String) (q : TreePath × Tree) :
    ((chainBranches name q).map Prod.fst).Nodup := by
  rw [chainBranches, List.map_append, List.nodup_append]
  refine ⟨?_, ?_, ?_⟩
  · rw [List.Nodup, List.pairwise_map]
    refine List.Pairwise.filterMap _ ?_ (List.pairwise_map.mp (nodup_paths_memberPlaces q))
    intro m m' hne x hx x' hx' heq
    obtain ⟨b, -, rfl⟩ := Option.map_eq_some_iff.mp hx
    obtain ⟨b', -, rfl⟩ := Option.map_eq_some_iff.mp hx'
    exact hne (List.append_cancel_right heq)
  · cases elseBlock? name q.2 <;> simp
  · -- The last step goes into a consequent here and into an `else` part there.
    rintro p hp p' hp' rfl
    obtain ⟨x, hx, hpath⟩ := List.mem_map.mp hp
    obtain ⟨m, -, hblock⟩ := List.mem_filterMap.mp hx
    obtain ⟨b, -, rfl⟩ := Option.map_eq_some_iff.mp hblock
    cases helse : elseBlock? name q.2 with
    | none =>
      rw [helse] at hp'
      cases hp'
    | some b' =>
      rw [helse] at hp'
      have hend : m.1 ++ [ElseGuard.consequentStep] = q.1 ++ chainPath q.2.chain.length :=
        hpath.trans (List.mem_singleton.mp hp')
      have hpos := length_chain_pos_of_elseBlock? helse
      rw [← Nat.sub_add_cancel hpos, ← chainPath_snoc, ← List.append_assoc] at hend
      exact absurd (List.append_inj_right' hend rfl) (by decide)

include ht hs in
/-- Every chain that has a bottom-level member is there once, by the first. -/
theorem firstBottomLevels_perm :
    (t.firstBottomLevels.map Prod.fst).Perm ((t.headPlaces false).filterMap firstBottomLevel?) := by
  have hfirsts : ((t.headPlaces false).filterMap firstBottomLevel?).Nodup := by
    have hheads : ((t.headPlaces false).map Prod.fst).Nodup := by
      rw [← heads_eq_headPlaces, List.map_map]
      exact DepthIndex.nodup_paths_heads ht
    refine List.Pairwise.filterMap _ ?_ (List.Pairwise.and_mem.mp (List.pairwise_map.mp hheads))
    rintro head head' ⟨hhead, hhead', hne⟩ p hp p' hp' rfl
    obtain ⟨k, u, -, hmember, -, hpath⟩ := firstBottomLevel?_eq_some hp
    obtain ⟨k', u', -, hmember', -, hpath'⟩ := firstBottomLevel?_eq_some hp'
    obtain ⟨hlt, -⟩ := List.getElem?_eq_some_iff.mp hmember
    obtain ⟨hlt', -⟩ := List.getElem?_eq_some_iff.mp hmember'
    obtain ⟨hsame, -⟩ := eq_of_chainPath_eq ht hs hhead hhead' hlt hlt' (hpath.symm.trans hpath')
    exact hne (congrArg Prod.fst hsame)
  rw [List.perm_ext_iff_of_nodup (nodup_paths_firstBottomLevels ht) hfirsts]
  intro p
  constructor
  · intro hp
    obtain ⟨q, hq, rfl⟩ := List.mem_map.mp hp
    exact List.contains_iff_mem.mp (List.mem_filter.mp hq).2
  · intro hp
    obtain ⟨head, hhead, hfirst⟩ := List.mem_filterMap.mp hp
    obtain ⟨k, u, -, hmember, -, rfl⟩ := firstBottomLevel?_eq_some hfirst
    have hplace := mem_places_of_mem_chain ht hs hhead hmember
    exact List.mem_map.mpr ⟨_, List.mem_filter.mpr ⟨hplace, List.contains_iff_mem.mpr hp⟩, rfl⟩

include ht in
/-- No branch of a tree comes twice. -/
theorem nodup_paths_branches (name : String) :
    ((t.starts.flatMap (chainBranches name)).map Prod.fst).Nodup := by
  rw [List.map_flatMap, List.nodup_flatMap]
  refine ⟨fun q _ => nodup_paths_chainBranches name q, (pairwise_starts ht).imp ?_⟩
  intro q r hne p hp hp'
  obtain ⟨j, hj, step, hpath⟩ := exists_member_of_mem_chainBranches hp
  obtain ⟨j', hj', step', hpath'⟩ := exists_member_of_mem_chainBranches hp'
  -- The members that the branches belong to would be one.
  exact hne j hj j' hj' (List.append_inj_left' (hpath.symm.trans hpath') rfl)

/-! ## Collected blocks -/

/-- The script `if (s === 0) { if (s === 1) { a(); } else { b(); } } else if (s === 2) { c(); } else if (s === 3) {
if (s === 4) { d(); } }`. -/
def nestedChains : Tree :=
  scriptOf [.ifThen (SelectorTest.equals (.text "s") (.int 0)).toTree
    (blockOf [.ifThen (SelectorTest.equals (.text "s") (.int 1)).toTree (blockOf [callOf "a"]) (blockOf [callOf "b"])])
    (.ifThen (SelectorTest.equals (.text "s") (.int 2)).toTree (blockOf [callOf "c"])
      (.ifThen (SelectorTest.equals (.text "s") (.int 3)).toTree
        (blockOf [.ifThen (SelectorTest.equals (.text "s") (.int 4)).toTree (blockOf [callOf "d"]) .null]) .null))]

end BlockCollector
end Deflatten
