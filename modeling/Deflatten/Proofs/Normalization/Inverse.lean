import Deflatten.Proofs.Normalization.Correspondence
import Deflatten.Proofs.Normalization.NextValue
/-!
# Undoing the guards

The heads of a tree may be treated in any order (`steps_of_perm`), as no step changes the test of another head or the
end of its chain. Every chain that gets a test gets one member more, at its end (`addedMembers`). No new member is a
head (`ifThen_of_mem_addedMembers`), and to put the branch of each in its place, the inner ones first, gives back the
tree (`unguard_run`). All this is about runs that go to their end; a run of which a test cannot be written halts there,
and `halted?_eq_none_iff` says when none does.
-/

namespace Deflatten.ElseGuard

open Deflatten.Tree

variable {t : Tree} {plan : Plan}

/-! ## The order of the heads -/

/-- The plan of a run, its tests put in one by one in document order. -/
def headPlan (t : Tree) : Plan := (DepthIndex.heads t).foldl Plan.guard fun _ => none

theorem run_eq_headPlan (ht : t.HasDistinctFields) : (run t).1 = (headPlan t).apply t := by
  rw [run_fst_eq_guarded ht, ← steps_fst_eq_guarded ht (.refl _), steps_eq_apply ht (.refl _), headPlan]

theorem headPlan_path (ht : t.HasDistinctFields) {v : Visit} (hv : v ∈ DepthIndex.heads t) :
    headPlan t v.path = guardTest? v.node :=
  Plan.foldl_guard_of_mem (DepthIndex.nodup_paths_heads ht) hv rfl

/-- In whatever order the heads are treated, the tree is the same afterwards, and each chain has the fate that it has in
the original tree. -/
theorem steps_of_perm (ht : t.HasDistinctFields) {vs : List Visit} (hvs : vs.Perm (DepthIndex.heads t)) :
    steps t (vs.map Visit.path) = ((run t).1, vs.map fun v => outcome v.node) := by
  refine Prod.ext ?_ ?_
  · rw [steps_fst_eq_guarded ht hvs, run_fst_eq_guarded ht]
  · rw [steps_eq_apply ht hvs]

/-! ## New members -/

/-- The paths at which the members stand that a run has added, in the order of the heads of their chains: each is the
last of its chain. -/
def addedMembers (t : Tree) : List TreePath :=
  ((DepthIndex.heads t).zip (DepthIndex.heads (run t).1)).filterMap fun (before, after) =>
    if (outcome before.node).isGuarded then some (tailPath (run t).1 after.path) else none

/-- Puts the branches of some `if` statements in their places, of the last one first. -/
def unguard (ps : List TreePath) (t : Tree) : Tree := ps.foldr (fun p u => u.modifyAt (·.get "consequent") p) t

/-- Where a plan puts the new member of the chain at a visit, if it gets one. -/
def addedPath? (plan : Plan) (t : Tree) (v : Visit) : Option TreePath :=
  if (guardTest? v.node).isSome then some (plan.relocate t v.path ++ chainPath v.node.chain.length) else none

theorem filterMap_zip_of_map_eq {α β γ δ : Type} {f : α → γ} {g : β → γ} {as : List α} {bs : List β}
    (heq : as.map f = bs.map g) (h : α → γ → Option δ) :
    ((as.zip bs).filterMap fun x => h x.1 (g x.2)) = as.filterMap fun a => h a (f a) := by
  induction as generalizing bs with
  | nil => rfl
  | cons a as ih =>
    cases bs with
    | nil => cases heq
    | cons b bs =>
      rw [List.map_cons, List.map_cons] at heq
      obtain ⟨hhead, htail⟩ := List.cons.inj heq
      rw [List.zip_cons_cons, List.filterMap_cons, List.filterMap_cons, ih htail, hhead]

theorem map_path_heads_run (ht : t.HasDistinctFields) :
    (DepthIndex.heads t).map (fun v => (headPlan t).relocate t v.path) = (DepthIndex.heads (run t).1).map Visit.path := by
  have hheads : ((headPlan t).apply t).headPlaces false = (t.headPlaces false).map fun q =>
      ((headPlan t).relocate t q.1, ((headPlan t).along t q.1).apply q.2) := headPlaces_apply ht false
  have hplaces := congrArg (List.map Prod.fst) hheads
  rw [← run_eq_headPlan ht, ← heads_eq_headPlaces, ← heads_eq_headPlaces, List.map_map, List.map_map,
    List.map_map] at hplaces
  exact hplaces.symm

/-- The tail of a guarded chain is one member further than it was. -/
theorem tailPath_run (ht : t.HasDistinctFields) {v : Visit} (hv : v ∈ DepthIndex.heads t)
    (hguard : (guardTest? v.node).isSome) :
    tailPath (run t).1 ((headPlan t).relocate t v.path) =
      (headPlan t).relocate t v.path ++ chainPath v.node.chain.length := by
  obtain ⟨test, htest⟩ := Option.isSome_iff_exists.mp hguard
  obtain ⟨hcond, houtcome⟩ := guardTest?_eq_some htest
  have hlead := DepthIndex.leadsToHead_of_mem_heads hv
  have hown : (headPlan t).along t v.path [] = some test := by
    rw [Plan.along_nil ht hlead, headPlan_path ht hv, htest]
  have hat : ((headPlan t).apply t).at? ((headPlan t).relocate t v.path) =
      some (((headPlan t).along t v.path).apply v.node) := Plan.at?_relocate ht hlead.leads
  rw [run_eq_headPlan ht, tailPath, hat]
  simp only [Plan.length_chain_apply _ hcond, hown, (outcome_eq_guarded_iff.mp houtcome).1, Option.isSome_some,
    Bool.and_self, if_true, Nat.add_sub_cancel]

theorem addedMembers_eq (ht : t.HasDistinctFields) :
    addedMembers t = (DepthIndex.heads t).filterMap (addedPath? (headPlan t) t) := by
  have hzip := filterMap_zip_of_map_eq (map_path_heads_run ht) fun (v : Visit) (p : TreePath) =>
    if (outcome v.node).isGuarded then some (tailPath (run t).1 p) else none
  rw [addedMembers]
  refine hzip.trans (List.filterMap_congr fun v hv => ?_)
  obtain ⟨-, hcond, -⟩ := DepthIndex.mem_heads_iff.mp hv
  rw [isGuarded_outcome hcond, addedPath?]
  split
  · rename_i hguard
    rw [tailPath_run ht hv hguard]
  · rfl

/-- As many members are added as chains are guarded. -/
theorem length_addedMembers (ht : t.HasDistinctFields) : (addedMembers t).length = guardedCount (run t).2 := by
  rw [addedMembers_eq ht, List.length_filterMap_eq_countP, run_snd ht,
    guardedCount_outcomes (DepthIndex.outerFirst_perm t)]
  refine List.countP_congr fun v _ => ?_
  rw [addedPath?]
  cases guardTest? v.node <;> rfl

/-! ## The way back -/

/-- To put the guarded block of a tail back in the place of its guard is to undo the guard. -/
theorem unguard_guardTail {test : SelectorTest} (hblock : (t.get "alternate").isBlock) :
    (guardTail test t).modifyAt (·.get "consequent") [alternateStep] = t := by
  have hfield : t.step? alternateStep = some (t.get "alternate") := field?_of_isNode_get (isNode_of_hasTag hblock)
  have hbranch : (ifThen test.toTree (t.get "alternate") .null).get "consequent" = t.get "alternate" := by
    simp [ifThen]
  have hset : guardTail test t = t.setStep alternateStep (ifThen test.toTree (t.get "alternate") .null) := rfl
  rw [hset]
  rcases step?_setStep hfield (ifThen test.toTree (t.get "alternate") .null) with hnew | hfixed
  · simp only [modifyAt, hnew, hbranch, setStep_setStep]
    exact setStep_eq_self hfield
  · simp only [hfixed, modifyAt, hfield]

/-- A plan with a test more is undone at the end of the chain that the test is for. -/
theorem unguard_set {p : TreePath} {u : Tree} {test : SelectorTest} (ht : t.HasDistinctFields)
    (h : t.LeadsToHead p u) (hplan : plan p = none) (hcond : u.isConditional) (hblock : u.finalElse.isBlock) :
    ((plan.set p test).apply t).modifyAt (·.get "consequent") (plan.relocate t p ++ chainPath u.chain.length) =
      plan.apply t := by
  have hlen : u.chain.length - 1 + 1 = u.chain.length :=
    Nat.succ_pred_eq_of_pos (List.length_pos_iff.mpr (chain_ne_nil hcond))
  have hown : plan.along t p [] = none := (Plan.along_nil ht h).trans hplan
  -- The tail as the plan leaves it, which ends in the block as before.
  let head := (plan.along t p).apply u
  have hhead : head.isConditional := by rwa [Plan.isConditional_apply]
  have htail : head.chain[u.chain.length - 1]? = some head.chainTail := by
    have hsame : head.chain.length = u.chain.length := by
      rw [Plan.length_chain_apply _ hcond, hown, Option.isSome_none, Bool.and_false]
      rfl
    rw [← hsame, getElem?_chain_tail hhead]
  have hend : (head.chainTail.get "alternate").isBlock := by
    have hfinal := Plan.isBlock_finalElse_apply (plan.along t p) hcond
    rw [hown, hblock] at hfinal
    exact hfinal
  have hat : (plan.apply t).at? (plan.relocate t p ++ chainPath (u.chain.length - 1)) = some head.chainTail := by
    rw [at?_append, Plan.at?_relocate ht h.leads, Option.bind_some]
    exact at?_chainPath htail
  have hpath : plan.relocate t p ++ chainPath u.chain.length =
      plan.relocate t p ++ chainPath (u.chain.length - 1) ++ [alternateStep] := by
    rw [List.append_assoc, chainPath_snoc, hlen]
  rw [hpath, modifyAt_append, ← Plan.modifyAt_tail_apply ht h hplan hcond hblock, modifyAt_modifyAt]
  exact modifyAt_eq_self hat (unguard_guardTail hend)

/-- To undo the guards of some heads, of the last one first, gives back what was there before the first. -/
theorem unguard_foldl_guard (ht : t.HasDistinctFields) {vs : List Visit}
    (hheads : ∀ v ∈ vs, t.LeadsToHead v.path v.node ∧ v.node.isConditional)
    (hpaths : (vs.map Visit.path).Pairwise fun p q => ¬q <+: p) (hplan : ∀ v ∈ vs, plan v.path = none) :
    unguard (vs.filterMap (addedPath? (vs.foldl Plan.guard plan) t)) ((vs.foldl Plan.guard plan).apply t) =
      plan.apply t := by
  -- The plan before the heads is any one without their tests: the guards of the later heads are undone on top of it.
  induction vs generalizing plan with
  | nil => rfl
  | cons v vs ih =>
    obtain ⟨hlead, hcond⟩ := hheads v List.mem_cons_self
    have hv := hplan v List.mem_cons_self
    rw [List.map_cons, List.pairwise_cons] at hpaths
    have hne : ∀ w ∈ vs, w.path ≠ v.path :=
      fun w hw heq => hpaths.1 w.path (List.mem_map_of_mem hw) (heq ▸ List.prefix_rfl)
    have hrest : ∀ w ∈ vs, plan.guard v w.path = none := by
      intro w hw
      rw [Plan.guard_of_ne (hne w hw), hplan w (List.mem_cons_of_mem _ hw)]
    have hundone := ih (fun w hw => hheads w (List.mem_cons_of_mem _ hw)) hpaths.2 hrest
    -- No later head lies above this one, so that its path is the one at which it was guarded.
    have hpath : ((v :: vs).foldl Plan.guard plan).relocate t v.path = plan.relocate t v.path := by
      refine Plan.relocate_congr fun q hq hqne => ?_
      refine Plan.foldl_guard_of_notMem ?_
      rw [List.map_cons, List.mem_cons, not_or]
      exact ⟨hqne, fun hmem => hpaths.1 q hmem hq⟩
    cases htest : guardTest? v.node with
    | none =>
      have hnone : addedPath? ((v :: vs).foldl Plan.guard plan) t v = none := by simp [addedPath?, htest]
      have hguard : plan.guard v = plan := by rw [Plan.guard, htest]
      rw [List.filterMap_cons_none hnone]
      rw [hguard] at hundone
      rwa [List.foldl_cons, hguard]
    | some test =>
      obtain ⟨-, houtcome⟩ := guardTest?_eq_some htest
      have hsome : addedPath? ((v :: vs).foldl Plan.guard plan) t v =
          some (plan.relocate t v.path ++ chainPath v.node.chain.length) := by
        rw [addedPath?, htest, Option.isSome_some, if_pos rfl, hpath]
      have hguard : plan.guard v = plan.set v.path test := by rw [Plan.guard, htest]
      rw [List.filterMap_cons_some hsome, unguard, List.foldr_cons, ← unguard, List.foldl_cons, hundone, hguard]
      exact unguard_set ht hlead hv hcond (outcome_eq_guarded_iff.mp houtcome).1

/-- To put the branch of every new member in its place gives back the tree. -/
theorem unguard_run (ht : t.HasDistinctFields) : unguard (addedMembers t) (run t).1 = t := by
  let plan : Plan := fun _ => none
  have hheads : ∀ v ∈ DepthIndex.heads t, t.LeadsToHead v.path v.node ∧ v.node.isConditional :=
    fun v hv => ⟨DepthIndex.leadsToHead_of_mem_heads hv, (DepthIndex.mem_heads_iff.mp hv).2.1⟩
  have hpaths : ((DepthIndex.heads t).map Visit.path).Pairwise fun p q => ¬q <+: p :=
    (pairwise_not_prefix_walk ht).sublist ((DepthIndex.heads_sublist_walk t).map Visit.path)
  have hundone : unguard ((DepthIndex.heads t).filterMap (addedPath? (headPlan t) t)) ((headPlan t).apply t) =
      plan.apply t := unguard_foldl_guard ht hheads hpaths fun _ _ => rfl
  rw [Plan.apply_none] at hundone
  rwa [addedMembers_eq ht, run_eq_headPlan ht]

/-! ## The new members as `if` statements -/

theorem hasSingleAlternates_guarded {own : Option SelectorTest} (ht : t.HasDistinctFields) (hs : t.HasSingleAlternates) :
    (guarded own t).HasSingleAlternates := by
  refine forall_mem_nodes_guarded ht ?_ ?_ ?_
  · intro own' u hu hcond
    rw [isConditional_guarded] at hcond
    have hnode := isNode_of_isConditional hcond
    rw [isNode_get_guarded own' hnode rfl, get_guarded own' hnode (ht u hu) rfl]
    refine (hs u hu hcond).imp_left fun hnull => ?_
    generalize u.get "alternate" = value at hnull
    cases value with
    | scalar _ => exact hnull
    | _ => cases hnull
  · intro test block _
    exact .inl (by simp [ifThen, isNull, null])
  · intro test w hw hcond
    rw [nodes_toTree] at hw
    simp only [List.mem_cons, List.not_mem_nil, or_false] at hw
    rcases hw with rfl | rfl | rfl <;> cases hcond

variable (ht : t.HasDistinctFields) (hs : t.HasSingleAlternates)

include ht in
theorem hasDistinctFields_run : (run t).1.HasDistinctFields := by
  rw [run_fst_eq_guarded ht]
  exact hasDistinctFields_guarded ht

include ht hs in
theorem hasSingleAlternates_run : (run t).1.HasSingleAlternates := by
  rw [run_fst_eq_guarded ht]
  exact hasSingleAlternates_guarded ht hs

/-- What a run makes of a head, at its new path. -/
def headAfter (t : Tree) (v : Visit) : TreePath × Tree :=
  ((headPlan t).relocate t v.path, ((headPlan t).along t v.path).apply v.node)

include ht in
theorem headPlaces_run : (run t).1.headPlaces false = (DepthIndex.heads t).map (headAfter t) := by
  rw [run_eq_headPlan ht, headPlaces_apply ht, ← heads_eq_headPlaces, List.map_map]
  rfl

include ht in
/-- A chain is one member longer if it gets a test; that member is an `if` statement without `else`. -/
theorem chain_headAfter {v : Visit} (hv : v ∈ DepthIndex.heads t) :
    ∃ ms block, ms.length = v.node.chain.length ∧ (headAfter t v).2.chain =
      ms ++ (guardTest? v.node).toList.map fun test => ifThen test.toTree block .null := by
  obtain ⟨-, hcond, -⟩ := DepthIndex.mem_heads_iff.mp hv
  obtain ⟨ms, block, hlen, hchain⟩ := Plan.exists_chain_apply ((headPlan t).along t v.path) hcond
  refine ⟨ms, block, hlen, ?_⟩
  rw [headAfter, hchain, Plan.along_nil ht (DepthIndex.leadsToHead_of_mem_heads hv), headPlan_path ht hv]
  congr 1
  cases htest : guardTest? v.node with
  | none => exact ite_self _
  | some test =>
    obtain ⟨-, houtcome⟩ := guardTest?_eq_some htest
    rw [if_pos (outcome_eq_guarded_iff.mp houtcome).1]

theorem length_flatMap_add_countP {α β : Type} {f g : α → List β} {p : α → Bool} {l : List α}
    (h : ∀ a ∈ l, (g a).length = (f a).length + if p a then 1 else 0) :
    (l.flatMap g).length = (l.flatMap f).length + l.countP p := by
  induction l with
  | nil => rfl
  | cons a l ih =>
    have hrest := ih fun b hb => h b (List.mem_cons_of_mem _ hb)
    rw [List.flatMap_cons, List.flatMap_cons, List.length_append, List.length_append, hrest, List.countP_cons,
      h a List.mem_cons_self]
    omega

include ht hs in
/-- A run adds as many `if` statements as it guards chains. -/
theorem length_conditionals_run :
    (run t).1.conditionals.length = t.conditionals.length + guardedCount (run t).2 := by
  have hlength : ∀ u : Tree, u.conditionals.length = u.places.length := fun u => by rw [places, List.length_map]
  have hplaces : ∀ q : TreePath × Tree, (memberPlaces q).length = q.2.chain.length := fun q => by
    rw [memberPlaces, List.length_map, List.length_zipIdx]
  rw [hlength, hlength, (places_perm_members ht hs).length_eq,
    (places_perm_members (hasDistinctFields_run ht) (hasSingleAlternates_run ht hs)).length_eq, headPlaces_run ht,
    ← heads_eq_headPlaces, List.flatMap_map, List.flatMap_map, run_snd ht,
    guardedCount_outcomes (DepthIndex.outerFirst_perm t)]
  refine length_flatMap_add_countP fun v hv => ?_
  obtain ⟨ms, block, hlen, hchain⟩ := chain_headAfter ht hv
  rw [hplaces, hplaces, hchain, List.length_append, hlen]
  cases guardTest? v.node <;> rfl

include ht in
/-- The place of a new member, in the chain that the head of the guarded chain heads afterwards. -/
theorem addedPath?_eq_some {v : Visit} (hv : v ∈ DepthIndex.heads t) {p : TreePath}
    (hp : addedPath? (headPlan t) t v = some p) :
    p = (headAfter t v).1 ++ chainPath v.node.chain.length ∧ headAfter t v ∈ (run t).1.headPlaces false ∧
      ∃ test block,
        (headAfter t v).2.chain[v.node.chain.length]? = some (ifThen (SelectorTest.toTree test) block .null) := by
  rw [addedPath?] at hp
  split at hp
  · rename_i hguard
    obtain ⟨test, htest⟩ := Option.isSome_iff_exists.mp hguard
    obtain ⟨ms, block, hlen, hchain⟩ := chain_headAfter ht hv
    refine ⟨(Option.some.inj hp).symm, ?_, test, block, ?_⟩
    · rw [headPlaces_run ht]
      exact List.mem_map_of_mem hv
    · rw [hchain, htest, ← hlen]
      simp
  · cases hp

include ht hs in
/-- What stands at a new member is an `if` statement without `else` whose test is written from a selector test, and no
head. -/
theorem ifThen_of_mem_addedMembers {p : TreePath} (hp : p ∈ addedMembers t) :
    (∃ w ∈ (run t).1.conditionals, w.path = p ∧
        ∃ test block, w.node = ifThen (SelectorTest.toTree test) block .null) ∧
      p ∉ (DepthIndex.heads (run t).1).map Visit.path := by
  rw [addedMembers_eq ht, List.mem_filterMap] at hp
  obtain ⟨v, hv, hp⟩ := hp
  obtain ⟨hpath, hhead, test, block, hmember⟩ := addedPath?_eq_some ht hv hp
  have hfields := hasDistinctFields_run ht
  have hsingle := hasSingleAlternates_run ht hs
  constructor
  · obtain ⟨w, hw, heq⟩ := List.mem_map.mp (mem_places_of_mem_chain hfields hsingle hhead hmember)
    obtain ⟨hwpath, hwnode⟩ := Prod.mk.inj heq
    exact ⟨w, hw, hwpath.trans hpath.symm, test, block, hwnode⟩
  · -- A head is the first member of its chain, and the new member is not.
    intro hmem
    obtain ⟨w, hw, hwpath⟩ := List.mem_map.mp hmem
    have hother : (w.path, w.node) ∈ (run t).1.headPlaces false := by
      rw [← heads_eq_headPlaces]
      exact List.mem_map.mpr ⟨w, hw, rfl⟩
    obtain ⟨-, hcond, -⟩ := DepthIndex.mem_heads_iff.mp hw
    have hfirst : 0 < w.node.chain.length := List.length_pos_iff.mpr (chain_ne_nil hcond)
    have hplace : w.path ++ chainPath 0 = (headAfter t v).1 ++ chainPath v.node.chain.length := by
      rw [← hpath, ← hwpath]
      exact List.append_nil _
    obtain ⟨hlast, -⟩ := List.getElem?_eq_some_iff.mp hmember
    obtain ⟨-, hzero⟩ := eq_of_chainPath_eq hfields hsingle hother hhead hfirst hlast hplace
    have hlong : 0 < v.node.chain.length :=
      List.length_pos_iff.mpr (chain_ne_nil (DepthIndex.mem_heads_iff.mp hv).2.1)
    omega

include ht hs in
theorem nodup_addedMembers : (addedMembers t).Nodup := by
  have hfields := hasDistinctFields_run ht
  have hsingle := hasSingleAlternates_run ht hs
  have hpaths : ((DepthIndex.heads t).map fun v => (headAfter t v).1).Nodup := by
    have hnodup := DepthIndex.nodup_paths_heads hfields
    rwa [← map_path_heads_run ht] at hnodup
  rw [addedMembers_eq ht]
  refine List.Pairwise.filterMap _ ?_ (List.Pairwise.and_mem.mp (List.pairwise_map.mp hpaths))
  rintro v w ⟨hv, hw, hne⟩ p hp p' hp' rfl
  obtain ⟨hpath, hhead, _, _, hmember⟩ := addedPath?_eq_some ht hv hp
  obtain ⟨hpath', hhead', _, _, hmember'⟩ := addedPath?_eq_some ht hw hp'
  obtain ⟨hlast, -⟩ := List.getElem?_eq_some_iff.mp hmember
  obtain ⟨hlast', -⟩ := List.getElem?_eq_some_iff.mp hmember'
  -- One place belongs to one chain, and so to one head.
  obtain ⟨hsame, -⟩ := eq_of_chainPath_eq hfields hsingle hhead hhead' hlast hlast' (hpath.symm.trans hpath')
  exact hne (congrArg Prod.fst hsame)

/-! ## The pass in any order, and its inverse -/

include ht in
theorem isGuarded_outcomes {vs : List Visit} (hvs : vs.Perm (DepthIndex.heads t)) :
    (steps t (vs.map Visit.path)).2.map Outcome.isGuarded = vs.map fun v => (guardedName? v.node).isSome := by
  rw [steps_of_perm ht hvs, List.map_map]
  refine List.map_congr_left fun v hv => ?_
  obtain ⟨-, hcond, -⟩ := DepthIndex.mem_heads_iff.mp (hvs.mem_iff.mp hv)
  rw [Function.comp_apply, isGuarded_outcome hcond, isSome_guardTest?]

include ht in
/-- The chains seen are all of them, and those that are guarded are those that qualify. -/
theorem metrics_of_perm {vs : List Visit} (hvs : vs.Perm (DepthIndex.heads t)) :
    metrics (steps t (vs.map Visit.path)).2 =
      { chainsSeen := (DepthIndex.heads t).length
        guardedElses := (DepthIndex.heads t).countP fun v => (guardedName? v.node).isSome
        skippedChains := (DepthIndex.heads t).countP fun v => (guardedName? v.node).isNone } := by
  have hguards : guardedCount (steps t (vs.map Visit.path)).2 =
      (DepthIndex.heads t).countP fun v => (guardedName? v.node).isSome := by
    rw [steps_of_perm ht hvs, guardedCount_outcomes hvs]
    simp only [isSome_guardTest?]
  have hseen : (steps t (vs.map Visit.path)).2.length = (DepthIndex.heads t).length := by
    rw [steps_of_perm ht hvs, List.length_map, hvs.length_eq]
  have hrest : (DepthIndex.heads t).length = (DepthIndex.heads t).countP (fun v => (guardedName? v.node).isSome) +
      (DepthIndex.heads t).countP fun v => (guardedName? v.node).isNone := by
    rw [List.length_eq_countP_add_countP fun v : Visit => (guardedName? v.node).isSome]
    congr 1
    refine List.countP_congr fun v _ => ?_
    cases guardedName? v.node <;> simp
  rw [metrics, hguards, hseen]
  congr 1
  omega

include ht hs in
/-- The heads may be treated in any order, by runs that go to their end (`halted?_eq_none_iff`): the tree, the chains
that are guarded and the counts are the same, and the chains guarded are those that qualify in the original tree, which
end in a block and whose heads test a variable by equality (`guardedName?`). Each of them gets one member, an `if`
statement that is no head, and no other `if` statement is added. To put the branches of the new members in their places
gives back the tree. -/
theorem steps_perm_unguard :
    (∀ vs : List Visit, vs.Perm (DepthIndex.ofTree t).outerFirst →
        (vs.map Visit.path).Nodup ∧ (steps t (vs.map Visit.path)).1 = (run t).1 ∧
          (steps t (vs.map Visit.path)).2.map Outcome.isGuarded = vs.map (fun v => (guardedName? v.node).isSome) ∧
          metrics (steps t (vs.map Visit.path)).2 =
            { chainsSeen := (DepthIndex.heads t).length
              guardedElses := (DepthIndex.heads t).countP fun v => (guardedName? v.node).isSome
              skippedChains := (DepthIndex.heads t).countP fun v => (guardedName? v.node).isNone }) ∧
      (addedMembers t).length = (DepthIndex.heads t).countP (fun v => (guardedName? v.node).isSome) ∧
      (run t).1.conditionals.length = t.conditionals.length + (addedMembers t).length ∧ (addedMembers t).Nodup ∧
      (∀ p ∈ addedMembers t,
        (∃ w ∈ (run t).1.conditionals, w.path = p ∧
            ∃ test block, w.node = ifThen (SelectorTest.toTree test) block .null) ∧
          p ∉ (DepthIndex.heads (run t).1).map Visit.path) ∧
      unguard (addedMembers t) (run t).1 = t := by
  have hperm := DepthIndex.outerFirst_perm t
  refine ⟨fun vs hvs => ?_, ?_, ?_, nodup_addedMembers ht hs, fun p => ifThen_of_mem_addedMembers ht hs, unguard_run ht⟩
  · have hvs : vs.Perm (DepthIndex.heads t) := hvs.trans hperm
    refine ⟨(hvs.map Visit.path).nodup_iff.mpr (DepthIndex.nodup_paths_heads ht), ?_, isGuarded_outcomes ht hvs,
      metrics_of_perm ht hvs⟩
    rw [steps_of_perm ht hvs]
  · rw [length_addedMembers ht, run_snd ht, guardedCount_outcomes hperm]
    simp only [isSome_guardTest?]
  · rw [length_addedMembers ht, length_conditionals_run ht hs]

/-- The script `if (s === 0) { a(); } else { if (s === 0) { b(); } else { c(); } }`. -/
def elseInElse : Tree :=
  scriptOf [.ifThen (SelectorTest.equals (.text "s") (.int 0)).toTree (blockOf [callOf "a"])
    (blockOf [.ifThen (SelectorTest.equals (.text "s") (.int 0)).toTree (blockOf [callOf "b"])
      (blockOf [callOf "c"])])]

/-- The inner chain may be guarded first; both guards are undone. -/
theorem elseInElse_unguard :
    elseInElse.HasDistinctFields ∧ elseInElse.HasSingleAlternates ∧
      (steps elseInElse ((DepthIndex.ofTree elseInElse).outerFirst.reverse.map Visit.path)).1 = (run elseInElse).1 ∧
      (addedMembers elseInElse).length = 2 ∧ unguard (addedMembers elseInElse) (run elseInElse).1 = elseInElse := by
  have hfields : elseInElse.HasDistinctFields := by decide +kernel
  have hsingle : elseInElse.HasSingleAlternates := by decide +kernel
  obtain ⟨horder, -, -, -, -, hback⟩ := steps_perm_unguard hfields hsingle
  obtain ⟨-, htree, -⟩ := horder _ (List.reverse_perm _)
  exact ⟨hfields, hsingle, htree, by decide +kernel, hback⟩

end Deflatten.ElseGuard
