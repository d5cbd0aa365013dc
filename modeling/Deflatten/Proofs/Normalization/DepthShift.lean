import Deflatten.Proofs.Normalization.Inverse
import Deflatten.Proofs.Normalization.OuterFirst
import Deflatten.Proofs.Normalization.PlannedWalk
import Mathlib.Data.List.Infix
/-!
# Depths after a run

A run moves the block at the end of each guarded chain into a new member of the chain. The walk afterwards visits the
nodes that were there before in the same order, each as much deeper as there are moved blocks that hold it, and each at
its old place in its parent, but for the moved blocks (`ElseGuard.walk_run`). So the heads are those that were there
before, and the depth recorded for one is out of date only if it lies in a moved block. The run is one that goes to its
end, as it does if the tests of all heads can be written (`ElseGuard.halted?_eq_none_iff`).
-/

namespace Deflatten

namespace Tree

variable {t : Tree}

/-- A visit is that of the root, or that of a child of its parent. -/
theorem root_or_child_of_mem_walk {v : Visit} (h : v ∈ t.walk) :
    v = .root t ∨ ∃ p u s, v.path = p ++ [s] ∧ v.field = some s.field ∧ v.parent = some u ∧ t.Leads p u ∧
      (s, v.node) ∈ u.children := by
  induction t using induction_children generalizing v with
  | step t ih =>
    rcases root_or_below_of_mem_walk h with rfl | ⟨hne, -, -⟩
    · exact .inl rfl
    · refine .inr ?_
      obtain ⟨c, hc, w, hw, rfl⟩ := mem_walk_below h hne
      rcases ih c hc hw with rfl | ⟨p, u, s, hpath, hfield, hparent, hlead, hmem⟩
      · exact ⟨[], t, c.1, rfl, rfl, rfl, .here t, hc⟩
      · refine ⟨c.1 :: p, u, s, ?_, ?_, ?_, .child hc hlead, hmem⟩
        · rw [Visit.under_path, hpath]
          rfl
        · rw [Visit.under, hfield, Option.some_or]
        · rw [Visit.under, hparent, Option.some_or]

end Tree

theorem exists_of_forall₂ {α β : Type} {R : α → β → Prop} {l : List α} {m : List β} (h : List.Forall₂ R l m) {a : α}
    (ha : a ∈ l) : ∃ b ∈ m, R a b := by
  induction h with
  | nil => cases ha
  | cons hab _ ih =>
    rcases List.mem_cons.mp ha with rfl | ha
    · exact ⟨_, List.mem_cons_self, hab⟩
    · obtain ⟨b, hb, hab⟩ := ih ha
      exact ⟨b, List.mem_cons_of_mem _ hb, hab⟩

namespace ElseGuard

open Deflatten.Tree

variable {t u : Tree} {p q : TreePath}

/-! ## Moved blocks -/

/-- The paths to the blocks that a run moves: each ends a chain that gets a test. -/
def movedBlocks (t : Tree) : List TreePath :=
  (DepthIndex.heads t).filterMap fun v =>
    if (outcome v.node).isGuarded then some (v.path ++ chainPath v.node.chain.length) else none

/-- A path past some blocks that have been moved, each into the branch of a new `if` statement in its place. -/
def pastBlocks (moved : TreePath → Bool) : TreePath → TreePath
  | [] => []
  | s :: p => s :: ((if moved [s] then [consequentStep] else []) ++ pastBlocks (fun q => moved (s :: q)) p)

/-- The path of a node after a run. -/
def newPath (t : Tree) (p : TreePath) : TreePath := pastBlocks (fun q => q ∈ movedBlocks t) p

/-- The paths to the nodes that a run adds: for each moved block an `if` statement in its place, with its test and the
operands of the test. -/
def newNodes (t : Tree) : List TreePath :=
  (movedBlocks t).flatMap fun p => guardPlaces.map ((newPath t p).dropLast ++ ·)

theorem length_pastBlocks (moved : TreePath → Bool) (p : TreePath) :
    (pastBlocks moved p).length = p.length + p.inits.tail.countP moved := by
  induction p generalizing moved with
  | nil => rfl
  | cons s p ih =>
    have hinits : p.inits = [] :: p.inits.tail := by cases p <;> rfl
    rw [pastBlocks, List.inits_cons, List.tail_cons, List.countP_map, hinits, List.countP_cons, Function.comp_apply,
      List.length_cons, List.length_append, ih]
    have hsame : p.inits.tail.countP (fun q => moved (s :: q)) = p.inits.tail.countP (moved ∘ fun q => s :: q) := rfl
    cases moved [s] <;> simp [hsame] <;> omega

/-- A path is relocated past the blocks that a plan moves. -/
theorem Plan.relocate_eq_pastBlocks {plan : Plan} {moved : TreePath → Bool} (ht : t.HasDistinctFields)
    (h : t.Leads p u) (hmoved : ∀ q ≠ [], q <+: p → (moved q ↔ plan.Moves t q)) :
    plan.relocate t p = pastBlocks moved p := by
  induction h generalizing plan moved with
  | here => rfl
  | @child t c u s p hc _ ih =>
    have hstep : moved [s] ↔ plan.detour t s c ≠ [] := by
      rw [hmoved [s] (List.cons_ne_nil _ _) (List.cons_prefix_cons.mpr ⟨rfl, List.nil_prefix⟩), moves_cons_iff ht hc,
        or_iff_left fun hnil => hnil.ne_nil rfl, and_iff_right rfl]
    have hbelow : (plan.into t s).relocate c p = pastBlocks (fun q => moved (s :: q)) p := by
      refine ih (ht.child hc) fun q hq hprefix => ?_
      rw [hmoved (s :: q) (List.cons_ne_nil _ _) (List.cons_prefix_cons.mpr ⟨rfl, hprefix⟩), moves_cons_iff ht hc,
        or_iff_right fun hnil => hq hnil.1]
    rw [relocate_of_child ht hc, hbelow, pastBlocks]
    rcases applyChild_cases plan t s c with ⟨hdetour, -⟩ | ⟨test, hdetour, -⟩
    · rw [hdetour, if_neg fun hs => hstep.mp hs hdetour]
    · rw [hdetour, if_pos (hstep.mpr (by rw [hdetour]; exact List.cons_ne_nil _ _))]

/-- A child is moved if a test is planned for the chain of which it is the final block. -/
theorem Plan.detour_ne_nil_iff {plan : Plan} {s : Step} {c : Tree} :
    plan.detour t s c ≠ [] ↔ (t.isConditional ∧ s = alternateStep) ∧ c.isBlock ∧ (plan []).isSome := by
  rw [detour, ← continues_iff]
  cases continues t s <;> cases c.isBlock <;> cases (plan []).isSome <;> simp

variable (ht : t.HasDistinctFields) (hs : t.HasSingleAlternates)

include ht in
theorem headPlan_along {v : Visit} (hv : v ∈ DepthIndex.heads t) {k : Nat} (hk : v.node.chain[k]? = some u) :
    (headPlan t).along t (v.path ++ chainPath k) [] = guardTest? v.node := by
  have hlead := DepthIndex.leadsToHead_of_mem_heads hv
  rw [Plan.along_append ht hlead.leads, Plan.along_chainPath (hlead.hasDistinctFields ht) hk, Plan.along_nil ht hlead,
    headPlan_path ht hv]

include ht in
/-- The final block of a chain that gets a test is moved. -/
theorem moves_finalElse {v : Visit} (hv : v ∈ DepthIndex.heads t) (hguarded : (outcome v.node).isGuarded) :
    (headPlan t).Moves t (v.path ++ chainPath v.node.chain.length) := by
  obtain ⟨-, hcond, -⟩ := DepthIndex.mem_heads_iff.mp hv
  rw [isGuarded_outcome hcond] at hguarded
  obtain ⟨test, htest⟩ := Option.isSome_iff_exists.mp hguarded
  have hblock : v.node.finalElse.isBlock := (outcome_eq_guarded_iff.mp (guardTest?_eq_some htest).2).1
  -- The block stands in the `else` part of the tail.
  have hlen : v.node.chain.length - 1 + 1 = v.node.chain.length :=
    Nat.succ_pred_eq_of_pos (List.length_pos_iff.mpr (chain_ne_nil hcond))
  have htail := getElem?_chain_tail hcond
  have htailcond := isConditional_of_mem_chain (chainTail_mem_chain hcond)
  have hmem : (alternateStep, v.node.finalElse) ∈ v.node.chainTail.children :=
    get_mem_children (isNode_of_isConditional htailcond) rfl (isNode_of_hasTag hblock)
  have hlead := (DepthIndex.leadsToHead_of_mem_heads hv).leads.append (leads_chainPath htail)
  rw [← hlen, ← chainPath_snoc, ← List.append_assoc, Plan.moves_snoc_iff ht hlead hmem, Plan.detour_ne_nil_iff,
    headPlan_along ht hv htail]
  exact ⟨⟨htailcond, rfl⟩, hblock, hguarded⟩

/-- A member whose `else` part is a block ends its chain. -/
theorem length_chain_of_isBlock (hcond : u.isConditional) (hblock : (u.get "alternate").isBlock) {head : Tree} {k : Nat}
    (hk : head.chain[k]? = some u) : head.chain.length = k + 1 := by
  have hlast : u.chain = [u] := by
    rw [chain_eq hcond, chain_of_not_isConditional (hasTag_of_ne hblock (by decide))]
  have hdrop := congrArg List.length (chain_of_getElem? hk)
  rw [hlast, List.length_singleton, List.length_drop] at hdrop
  omega

include ht hs in
/-- What is moved is the final block of a chain that gets a test. -/
theorem exists_head_of_moves (hp : (headPlan t).Moves t p) :
    ∃ v ∈ DepthIndex.heads t, (outcome v.node).isGuarded ∧ p = v.path ++ chainPath v.node.chain.length := by
  obtain ⟨c, hlead⟩ := hp.leads
  obtain ⟨w, hw, rfl, -⟩ := exists_mem_walk_of_leads hlead
  rcases root_or_child_of_mem_walk hw with rfl | ⟨q, u, s, hpath, -, -, hq, hmem⟩
  · exact absurd rfl hp.ne_nil
  rw [hpath, Plan.moves_snoc_iff ht hq hmem, Plan.detour_ne_nil_iff] at hp
  obtain ⟨⟨hcond, rfl⟩, hblock, hplan⟩ := hp
  have hget : u.get "alternate" = w.node :=
    get_of_field? (step?_of_mem_children (Plan.hasDistinctFields_of_leads ht hq).self hmem)
  have hplace : (q, u) ∈ t.places := mem_places_iff.mpr ⟨hq, hcond⟩
  obtain ⟨head, hhead, k, hk, hqpath⟩ := exists_head_of_mem_places ht hs hplace
  rw [← heads_eq_headPlaces] at hhead
  obtain ⟨v, hv, rfl⟩ := List.mem_map.mp hhead
  have hqpath : q = v.path ++ chainPath k := hqpath
  have hk : v.node.chain[k]? = some u := hk
  rw [hqpath, headPlan_along ht hv hk] at hplan
  refine ⟨v, hv, ?_, ?_⟩
  · rwa [isGuarded_outcome (DepthIndex.mem_heads_iff.mp hv).2.1]
  · rw [hpath, hqpath, List.append_assoc, chainPath_snoc, length_chain_of_isBlock hcond (hget ▸ hblock) hk]

include ht hs in
/-- The blocks that a run moves are those that its plan moves. -/
theorem mem_movedBlocks_iff : p ∈ movedBlocks t ↔ (headPlan t).Moves t p := by
  rw [movedBlocks, List.mem_filterMap]
  constructor
  · rintro ⟨v, hv, hp⟩
    split at hp
    · rename_i hguarded
      exact Option.some.inj hp ▸ moves_finalElse ht hv hguarded
    · cases hp
  · intro hp
    obtain ⟨v, hv, hguarded, rfl⟩ := exists_head_of_moves ht hs hp
    exact ⟨v, hv, if_pos hguarded⟩

include ht hs in
theorem nodup_movedBlocks : (movedBlocks t).Nodup := by
  rw [movedBlocks]
  refine List.Pairwise.filterMap _ ?_ (List.Pairwise.and_mem.mp (List.pairwise_map.mp (DepthIndex.nodup_paths_heads ht)))
  rintro v w ⟨hv, hw, hne⟩ p hp p' hp' rfl
  -- The tail of a chain belongs to one head.
  have htail : ∀ {x : Visit}, x ∈ DepthIndex.heads t →
      (if (outcome x.node).isGuarded then some (x.path ++ chainPath x.node.chain.length) else none) = some p →
      (x.path, x.node) ∈ t.headPlaces false ∧ x.node.chain.length - 1 < x.node.chain.length ∧
        p = x.path ++ chainPath (x.node.chain.length - 1) ++ [alternateStep] := by
    intro x hx hpath
    have hpos := List.length_pos_iff.mpr (chain_ne_nil (DepthIndex.mem_heads_iff.mp hx).2.1)
    refine ⟨?_, by omega, ?_⟩
    · rw [← heads_eq_headPlaces]
      exact List.mem_map_of_mem hx
    · split at hpath
      · rw [List.append_assoc, chainPath_snoc, Nat.sub_add_cancel hpos, Option.some.inj hpath]
      · cases hpath
  obtain ⟨hplace, hlast, hpath⟩ := htail hv hp
  obtain ⟨hplace', hlast', hpath'⟩ := htail hw hp'
  obtain ⟨hsame, -⟩ := eq_of_chainPath_eq ht hs hplace hplace' hlast hlast'
    (List.append_cancel_right (hpath.symm.trans hpath'))
  exact hne (congrArg Prod.fst hsame)

include ht hs in
theorem relocate_headPlan (h : t.Leads p u) : (headPlan t).relocate t p = newPath t p := by
  refine Plan.relocate_eq_pastBlocks ht h fun q _ _ => ?_
  rw [decide_eq_true_eq, mem_movedBlocks_iff ht hs]

include ht hs in
theorem mem_newNodes_iff : q ∈ newNodes t ↔ (headPlan t).Adds t q := by
  have hdrop : ∀ {p}, p ∈ movedBlocks t → newPath t p = (headPlan t).relocate t p := by
    intro p hp
    obtain ⟨u, hlead⟩ := ((mem_movedBlocks_iff ht hs).mp hp).leads
    exact (relocate_headPlan ht hs hlead).symm
  rw [newNodes, List.mem_flatMap]
  constructor
  · rintro ⟨p, hp, hq⟩
    obtain ⟨g, hg, rfl⟩ := List.mem_map.mp hq
    exact ⟨p, (mem_movedBlocks_iff ht hs).mp hp, g, hg, by rw [hdrop hp]⟩
  · rintro ⟨p, hp, g, hg, rfl⟩
    have hp := (mem_movedBlocks_iff ht hs).mpr hp
    exact ⟨p, hp, List.mem_map.mpr ⟨g, hg, by rw [hdrop hp]⟩⟩

/-! ## Depths -/

theorem nodup_inits {α : Type} (l : List α) : l.inits.Nodup := by
  induction l with
  | nil => exact List.nodup_singleton _
  | cons a l ih =>
    rw [List.inits_cons, List.nodup_cons]
    exact ⟨by simp, ih.map fun _ _ h => (List.cons.inj h).2⟩

/-- Two lists without repetitions have as many items of the first in the second as of the second in the first. -/
theorem countP_mem_comm {α : Type} [BEq α] [LawfulBEq α] {l m : List α} (hl : l.Nodup) (hm : m.Nodup) :
    l.countP (fun a => a ∈ m) = m.countP fun a => a ∈ l := by
  rw [List.countP_eq_length_filter, List.countP_eq_length_filter]
  refine List.Perm.length_eq ((List.perm_ext_iff_of_nodup (hl.filter _) (hm.filter _)).mpr fun a => ?_)
  simp [and_comm]

include ht hs in
/-- A path gets longer by as many steps as there are moved blocks that it goes through. -/
theorem length_newPath (p : TreePath) : (newPath t p).length = p.length + (movedBlocks t).countP (· <+: p) := by
  rw [newPath, length_pastBlocks, countP_mem_comm (nodup_inits p).tail (nodup_movedBlocks ht hs)]
  congr 1
  refine List.countP_congr fun q hq => ?_
  have hne : q ≠ [] := ((mem_movedBlocks_iff ht hs).mp hq).ne_nil
  have hinits : q ∈ p.inits ↔ q ∈ p.inits.tail := by
    cases p with
    | nil => simp [hne]
    | cons s p => rw [List.inits_cons, List.mem_cons, or_iff_right hne, List.tail_cons]
  simp only [decide_eq_true_eq, ← hinits, List.mem_inits]

/-! ## Places -/

/-- The visit of a node after a run, by its visit before: the node has the same type, and is as much deeper as there are
moved blocks that hold it, itself included. It stands in its old field, below what has become of its parent, unless it
is such a block itself. Then it is the branch of a new `if` statement. -/
structure Follows (t : Tree) (v w : Visit) : Prop where
  path : w.path = newPath t v.path
  tag : w.node.tag? = v.node.tag?
  depth : w.depth = v.depth + (movedBlocks t).countP (· <+: v.path)
  stays : v.path ∉ movedBlocks t → w.field = v.field ∧
    w.parent = v.parent.bind fun _ => (run t).1.at? (newPath t v.path.dropLast)
  moved : v.path ∈ movedBlocks t → w.field = some "consequent" ∧ w.path.dropLast ∈ newNodes t ∧
    ∃ test : SelectorTest, w.parent = some (.ifThen test.toTree w.node .null)

include ht in
theorem node_of_follows {v w : Visit} (hv : v ∈ t.walk) (hw : w ∈ (run t).1.walk) (h : (headPlan t).Follows t v w) :
    w.node = ((headPlan t).along t v.path).apply v.node := by
  have hat : (run t).1.at? w.path = some (((headPlan t).along t v.path).apply v.node) := by
    rw [h.1, run_eq_headPlan ht]
    exact Plan.at?_relocate ht (leads_of_mem_walk hv)
  rw [at?_of_leads (hasDistinctFields_run ht) (leads_of_mem_walk hw)] at hat
  exact Option.some.inj hat

include ht hs in
theorem depth_of_follows {v w : Visit} (hv : v ∈ t.walk) (h : (headPlan t).Follows t v w) :
    w.depth = v.depth + (movedBlocks t).countP (· <+: v.path) := by
  have hdepth := h.2
  rw [h.1, relocate_headPlan ht hs (leads_of_mem_walk hv), length_newPath ht hs] at hdepth
  omega

include ht hs in
theorem follows_of_mem_walk {v w : Visit} (hv : v ∈ t.walk) (hw : w ∈ (run t).1.walk)
    (h : (headPlan t).Follows t v w) : Follows t v w := by
  have hnode := node_of_follows ht hv hw h
  have hlonger := depth_of_follows ht hs hv h
  have hpath := h.1
  have hnew : w.path = newPath t v.path := by rw [hpath, relocate_headPlan ht hs (leads_of_mem_walk hv)]
  have htag : w.node.tag? = v.node.tag? := by rw [hnode, Plan.tag?_apply]
  rcases root_or_child_of_mem_walk hv with rfl | ⟨p, u, s, hvpath, hvfield, hvparent, hp, hmem⟩
  · -- The root is the root, and not moved.
    have hnot : (Visit.root t).path ∉ movedBlocks t := fun hmoved => ((mem_movedBlocks_iff ht hs).mp hmoved).ne_nil rfl
    refine ⟨hnew, htag, hlonger, fun _ => ?_, fun hmoved => absurd hmoved hnot⟩
    rcases root_or_child_of_mem_walk hw with rfl | ⟨p', _, s', hwpath, -⟩
    · exact ⟨rfl, rfl⟩
    · rw [hpath] at hwpath
      exact absurd hwpath.symm (List.append_ne_nil_of_right_ne_nil _ (List.cons_ne_nil _ _))
  · rw [hvpath, Plan.relocate_snoc ht hp hmem] at hpath
    rcases root_or_child_of_mem_walk hw with rfl | ⟨p', u', s', hwpath, hwfield, hwparent, hp', -⟩
    · exact absurd hpath.symm (List.append_ne_nil_of_right_ne_nil _ (List.cons_ne_nil _ _))
    have hat' : (run t).1.at? p' = some u' := at?_of_leads (hasDistinctFields_run ht) hp'
    have hmoved : v.path ∈ movedBlocks t ↔ ((headPlan t).along t p).detour u s v.node ≠ [] := by
      rw [mem_movedBlocks_iff ht hs, hvpath, Plan.moves_snoc_iff ht hp hmem]
    rcases Plan.applyChild_cases ((headPlan t).along t p) u s v.node with ⟨hdetour, -⟩ | ⟨test, hdetour, happly⟩
    · -- The node stands at its old step below its old parent.
      rw [hdetour, hwpath] at hpath
      obtain ⟨rfl, hstep⟩ := List.append_inj' hpath rfl
      obtain rfl : s' = s := List.singleton_inj.mp hstep
      refine ⟨hnew, htag, hlonger, fun _ => ⟨hwfield.trans hvfield.symm, ?_⟩, fun h => absurd hdetour (hmoved.mp h)⟩
      rw [hwparent, hvparent, Option.bind_some, hvpath, List.dropLast_concat, ← relocate_headPlan ht hs hp, hat']
    · -- The block stands in the branch of the new member, which stands in its place.
      have hpath : p' ++ [s'] = ((headPlan t).relocate t p ++ [s]) ++ [consequentStep] := by
        rw [← hwpath, hpath, hdetour, List.append_assoc]
        rfl
      obtain ⟨rfl, hstep⟩ := List.append_inj' hpath rfl
      obtain rfl : s' = consequentStep := List.singleton_inj.mp hstep
      have hblock : v.path ∈ movedBlocks t := hmoved.mpr (by rw [hdetour]; exact List.cons_ne_nil _ _)
      refine ⟨hnew, htag, hlonger, fun h => absurd hblock h, fun _ => ⟨hwfield, ?_, test, ?_⟩⟩
      · rw [hnew]
        exact List.mem_flatMap.mpr ⟨v.path, hblock, List.mem_map.mpr ⟨[], List.mem_cons_self, List.append_nil _⟩⟩
      · rw [run_eq_headPlan ht, Plan.at?_relocate_snoc ht hp hmem, happly, ← Plan.along_snoc ht hp hmem, ← hvpath,
          ← hnode] at hat'
        rw [hwparent, ← hat']

/-! ## Heads -/

include ht in
theorem length_movedBlocks : (movedBlocks t).length = guardedCount (run t).2 := by
  rw [movedBlocks, List.length_filterMap_eq_countP, run_snd ht, guardedCount_outcomes (DepthIndex.outerFirst_perm t)]
  refine List.countP_congr fun v hv => ?_
  rw [← isGuarded_outcome (DepthIndex.mem_heads_iff.mp hv).2.1]
  cases (outcome v.node).isGuarded <;> rfl

include ht hs in
theorem map_path_heads :
    (DepthIndex.heads (run t).1).map Visit.path = (DepthIndex.heads t).map fun v => newPath t v.path := by
  rw [← map_path_heads_run ht]
  exact List.map_congr_left fun v hv => relocate_headPlan ht hs (DepthIndex.leadsToHead_of_mem_heads hv).leads

include ht hs in
theorem forall₂_walk_run :
    List.Forall₂ (fun v w => (v ∈ t.walk ∧ w ∈ (run t).1.walk) ∧ (headPlan t).Follows t v w) t.walk
      ((run t).1.walk.filter fun w => w.path ∉ newNodes t) := by
  classical
  have hnew : ((run t).1.walk.filter fun w => w.path ∉ newNodes t) =
      ((headPlan t).apply t).walk.filter fun w => ¬(headPlan t).Adds t w.path := by
    rw [run_eq_headPlan ht]
    exact List.filter_congr fun w _ => by rw [decide_eq_decide, mem_newNodes_iff ht hs]
  have hwalk : List.Forall₂ ((headPlan t).Follows t) t.walk ((run t).1.walk.filter fun w => w.path ∉ newNodes t) :=
    hnew ▸ Plan.forall₂_walk_apply ht
  have hafter := ((List.forall₂_and_left (p := (· ∈ (run t).1.walk)) _ _).mpr
    ⟨fun w hw => (List.mem_filter.mp hw).1, hwalk.flip⟩).flip
  exact ((List.forall₂_and_left (p := (· ∈ t.walk)) _ _).mpr ⟨fun v hv => hv, hafter⟩).imp fun v w ⟨hv, hw, h⟩ =>
    ⟨⟨hv, hw⟩, h⟩

include ht hs in
/-- The walk after a run that goes to its end (`halted?_eq_none_iff`), without the nodes that the run adds, visits the
nodes that were there before in the same order, each as `Follows` says: as many levels deeper as there are moved blocks
that hold it, and in its old place below its parent unless it is such a block. The heads are those that were there
before, and the depth at which the index has one is its depth after the run if and only if it lies in no moved block. -/
theorem walk_run :
    List.Forall₂ (Follows t) t.walk ((run t).1.walk.filter fun w => w.path ∉ newNodes t) ∧
      (movedBlocks t).length = guardedCount (run t).2 ∧
      (DepthIndex.heads (run t).1).map Visit.path = (DepthIndex.heads t).map (fun v => newPath t v.path) ∧
      ∀ level ∈ (DepthIndex.ofTree t).levels, ∀ v ∈ level.2, ∃ w ∈ DepthIndex.heads (run t).1,
        w.path = newPath t v.path ∧ (w.depth = level.1 ↔ ∀ p ∈ movedBlocks t, ¬p <+: v.path) := by
  have hwalk : List.Forall₂ (Follows t) t.walk ((run t).1.walk.filter fun w => w.path ∉ newNodes t) :=
    (forall₂_walk_run ht hs).imp fun v w ⟨⟨hv, hw⟩, h⟩ => follows_of_mem_walk ht hs hv hw h
  refine ⟨hwalk, length_movedBlocks ht, map_path_heads ht hs, fun level hlevel v hv => ?_⟩
  obtain ⟨hhead, hlevel⟩ := DepthIndex.mem_heads_of_mem_levels hlevel hv
  obtain ⟨w, hw, hfollows⟩ := exists_of_forall₂ hwalk (DepthIndex.mem_heads_iff.mp hhead).1
  have hwhead : w ∈ DepthIndex.heads (run t).1 := by
    have hpath : w.path ∈ (DepthIndex.heads (run t).1).map Visit.path := by
      rw [map_path_heads ht hs, hfollows.path]
      exact List.mem_map_of_mem hhead
    obtain ⟨w', hw', hsame⟩ := List.mem_map.mp hpath
    obtain rfl : w' = w := List.inj_on_of_nodup_map (nodup_paths_walk (hasDistinctFields_run ht))
      (DepthIndex.mem_heads_iff.mp hw').1 (List.mem_filter.mp hw).1 hsame
    exact hw'
  refine ⟨w, hwhead, hfollows.path, ?_⟩
  rw [hfollows.depth, hlevel, Nat.add_eq_left, List.countP_eq_zero]
  simp only [decide_eq_true_eq]

/-- The inner chain lies in the block that the outer one gives up, and one level deeper afterwards; what its own final
block holds lies two levels deeper. -/
theorem walk_elseInElse :
    elseInElse.HasDistinctFields ∧ elseInElse.HasSingleAlternates ∧
      List.Forall₂ (Follows elseInElse) elseInElse.walk
        ((run elseInElse).1.walk.filter fun w => w.path ∉ newNodes elseInElse) ∧
      (DepthIndex.heads elseInElse).map Visit.depth = [0, 2] ∧
      (DepthIndex.heads (run elseInElse).1).map Visit.depth = [0, 3] ∧
      elseInElse.walk.getLast?.map Visit.depth = some 4 ∧ (run elseInElse).1.walk.getLast?.map Visit.depth = some 6 := by
  have hfields : elseInElse.HasDistinctFields := by decide +kernel
  have hsingle : elseInElse.HasSingleAlternates := by decide +kernel
  obtain ⟨hwalk, -⟩ := walk_run hfields hsingle
  exact ⟨hfields, hsingle, hwalk, by decide +kernel, by decide +kernel, by decide +kernel, by decide +kernel⟩

end ElseGuard
end Deflatten
