import Deflatten.Proofs.Normalization.Heads
/-!
# The run of the pass as one recursion

`ElseGuard.run` goes from head to head. After each step the tree is what a plan with a test more makes of the original
tree, the paths still to come are relocated by that plan, and the fate of a chain is the one that it has in the
original tree (`Plan.steps_relocate`). At the end the tree is `ElseGuard.guarded`, which is one recursion: a chain hands
its test on to the block at its end, and every other child is treated as a head of its own (`guarded_eq`).
-/

namespace Deflatten.ElseGuard

open Deflatten.Tree

/-- The test that a chain gets by its fate. -/
def Outcome.test? : Outcome → Option SelectorTest
  | .guarded test => some test
  | _ => none

/-- The test that the chain at a head gets; none if a tree is no `if` statement. -/
def guardTest? (t : Tree) : Option SelectorTest := if t.isConditional then (outcome t).test? else none

/-- The test of which a child knows: that of the chain it continues, or that of the chain it heads. A list in an `else`
part neither continues a chain nor holds heads. -/
def childGuard (own : Option SelectorTest) (t : Tree) (s : Step) (c : Tree) : Option SelectorTest :=
  if continues t s then own else if t.isConditional && s.field == "alternate" then none else guardTest? c

namespace Plan

/-- The plan by which every chain gets its test; the test at the root is given. -/
def ofTree (own : Option SelectorTest) (t : Tree) : Plan
  | [] => own
  | s :: p => (t.step? s).bind fun c => ofTree (childGuard none t s c) c p

end Plan

/-- A tree with its final `else` parts guarded; the test of the chain to which its root belongs is given. -/
def guarded (own : Option SelectorTest) (t : Tree) : Tree := (Plan.ofTree own t).apply t

/-! ## Fates -/

theorem guardTest?_eq_some {t : Tree} {test : SelectorTest} (h : guardTest? t = some test) :
    t.isConditional ∧ outcome t = .guarded test := by
  rw [guardTest?] at h
  split at h
  · rename_i hcond
    refine ⟨hcond, ?_⟩
    cases houtcome : outcome t with
    | guarded test' =>
      rw [houtcome] at h
      exact congrArg _ (Option.some.inj h)
    | _ => rw [houtcome] at h; cases h
  · cases h

theorem guardTest?_of_outcome {t : Tree} {test : SelectorTest} (hcond : t.isConditional)
    (h : outcome t = .guarded test) : guardTest? t = some test := by
  rw [guardTest?, if_pos hcond, h, Outcome.test?]

theorem isGuarded_outcome {t : Tree} (hcond : t.isConditional) : (outcome t).isGuarded = (guardTest? t).isSome := by
  rw [guardTest?, if_pos hcond]
  cases outcome t <;> rfl

/-- A chain is guarded if it ends in a block and there is a next value. -/
theorem outcome_eq_guarded_iff {t : Tree} {test : SelectorTest} :
    outcome t = .guarded test ↔ t.finalElse.isBlock ∧ nextSelector t = some test := by
  rw [outcome, ← finalElse]
  cases t.finalElse.isBlock with
  | false => simp
  | true => cases nextSelector t <;> simp

/-- There is a next value if the head of a chain is an equality test and the chain tests its variable. -/
theorem nextSelector_eq_some_iff {t : Tree} {test : SelectorTest} :
    nextSelector t = some test ↔ ∃ first, SelectorTest.ofConditional? t = some first ∧ first.isEquality ∧
      ∃ value values, usedValues t first.name = value :: values ∧
        test = .equals first.name (values.foldl greater value).succ := by
  rw [nextSelector, Option.bind_eq_bind, Option.bind_eq_some_iff]
  refine exists_congr fun first => and_congr_right fun _ => ?_
  cases first.isEquality with
  | false =>
    constructor
    · intro hnone
      cases hnone
    · rintro ⟨hfalse, -⟩
      cases hfalse
  | true =>
    cases usedValues t first.name with
    | nil =>
      constructor
      · intro hnone
        cases hnone
      · rintro ⟨-, _, _, hnil, -⟩
        cases hnil
    | cons value values =>
      constructor
      · intro hsome
        exact ⟨rfl, value, values, rfl, (Option.some.inj hsome).symm⟩
      · rintro ⟨-, _, _, hcons, rfl⟩
        cases hcons
        rfl

/-! ## Steps -/

namespace Plan

variable {plan : Plan} {t u : Tree} {p : TreePath}

/-- A plan with the test that the chain at a visit gets. -/
def guard (plan : Plan) (v : Visit) : Plan :=
  match guardTest? v.node with
  | some test => plan.set v.path test
  | none => plan

/-- At a relocated head stands what the plan makes of the head, and it has the fate of the head. -/
theorem step_relocate (ht : t.HasDistinctFields) (h : t.LeadsToHead p u) (hplan : plan p = none)
    (hcond : u.isConditional) :
    tailPath (plan.apply t) (plan.relocate t p) = plan.relocate t p ++ chainPath (u.chain.length - 1) ∧
      step (plan.apply t) (plan.relocate t p) =
        ((match outcome u with
          | .guarded test => (plan.set p test).apply t
          | _ => plan.apply t), outcome u) := by
  have hat : (plan.apply t).at? (plan.relocate t p) = some ((plan.along t p).apply u) := at?_relocate ht h.leads
  have hnone : plan.along t p [] = none := (along_nil ht h).trans hplan
  have htail : tailPath (plan.apply t) (plan.relocate t p) =
      plan.relocate t p ++ chainPath (u.chain.length - 1) := by
    rw [tailPath, hat]
    show _ ++ chainPath (((plan.along t p).apply u).chain.length - 1) = _
    rw [length_chain_apply _ hcond, hnone, Option.isSome_none, Bool.and_false]
    rfl
  refine ⟨htail, ?_⟩
  rw [step, hat]
  simp only [outcome_apply hnone hcond, htail]
  cases houtcome : outcome u with
  | guarded test =>
    have hblock := (outcome_eq_guarded_iff.mp houtcome).1
    simp only [modifyAt_tail_apply ht h hplan hcond hblock]
  | _ => rfl

/-- To treat relocated heads is to carry out the plan with their tests. -/
theorem steps_relocate (ht : t.HasDistinctFields) {vs : List Visit}
    (hheads : ∀ v ∈ vs, t.LeadsToHead v.path v.node ∧ v.node.isConditional) (hnodup : (vs.map Visit.path).Nodup)
    (hplan : ∀ v ∈ vs, plan v.path = none) :
    steps (plan.apply t) (vs.map fun v => plan.relocate t v.path) =
      ((vs.foldl guard plan).apply t, vs.map fun v => outcome v.node) := by
  induction vs generalizing plan with
  | nil => rw [List.map_nil, steps, List.foldl_nil, List.map_nil]
  | cons v vs ih =>
    obtain ⟨hlead, hcond⟩ := hheads v List.mem_cons_self
    rw [List.map_cons, List.nodup_cons] at hnodup
    have hv := hplan v List.mem_cons_self
    have hrest : ∀ w ∈ vs, plan w.path = none := fun w hw => hplan w (List.mem_cons_of_mem _ hw)
    have hheads' : ∀ w ∈ vs, t.LeadsToHead w.path w.node ∧ w.node.isConditional :=
      fun w hw => hheads w (List.mem_cons_of_mem _ hw)
    obtain ⟨htail, hstep⟩ := step_relocate ht hlead hv hcond
    rw [List.map_cons, steps, hstep, htail, List.foldl_cons, List.map_cons]
    cases houtcome : outcome v.node with
    | guarded test =>
      -- The plan gets the test of this head, and the heads to come are rerouted past the new block.
      have hblock := (outcome_eq_guarded_iff.mp houtcome).1
      have hguard : plan.guard v = plan.set v.path test := by rw [guard, guardTest?_of_outcome hcond houtcome]
      have hlen : v.node.chain.length - 1 + 1 = v.node.chain.length :=
        Nat.succ_pred_eq_of_pos (List.length_pos_iff.mpr (chain_ne_nil hcond))
      have hmoved : (vs.map fun w => plan.relocate t w.path).map
          (reroute (plan.relocate t v.path ++ chainPath (v.node.chain.length - 1) ++ [alternateStep])) =
            vs.map fun w => (plan.set v.path test).relocate t w.path := by
        rw [List.append_assoc, chainPath_snoc, hlen, List.map_map]
        refine List.map_congr_left fun w hw => ?_
        exact reroute_relocate ht hlead hv hcond hblock (hheads' w hw).1.leads
      have hnone : ∀ w ∈ vs, plan.set v.path test w.path = none := by
        intro w hw
        have hne : w.path ≠ v.path := fun heq => hnodup.1 (List.mem_map.mpr ⟨w, hw, heq⟩)
        rw [set, Function.update_of_ne hne]
        exact hrest w hw
      simp only [Outcome.isGuarded, if_true, hmoved, ih hheads' hnodup.2 hnone, hguard]
    | _ =>
      -- The tree and the paths stay.
      have hguard : plan.guard v = plan := by simp [guard, guardTest?, hcond, houtcome, Outcome.test?]
      simp only [Outcome.isGuarded, Bool.false_eq_true, if_false, ih hheads' hnodup.2 hrest, hguard]

theorem guard_of_ne {v : Visit} (h : p ≠ v.path) : plan.guard v p = plan p := by
  rw [guard]
  cases guardTest? v.node with
  | none => rfl
  | some test => exact Function.update_of_ne h _ _

theorem foldl_guard_of_notMem {vs : List Visit} (h : p ∉ vs.map Visit.path) : (vs.foldl guard plan) p = plan p := by
  induction vs generalizing plan with
  | nil => rfl
  | cons v vs ih =>
    rw [List.map_cons, List.mem_cons, not_or] at h
    rw [List.foldl_cons, ih h.2, guard_of_ne h.1]

theorem foldl_guard_of_mem {vs : List Visit} {v : Visit} (hnodup : (vs.map Visit.path).Nodup) (hv : v ∈ vs)
    (hplan : plan v.path = none) : (vs.foldl guard plan) v.path = guardTest? v.node := by
  induction vs generalizing plan with
  | nil => cases hv
  | cons w vs ih =>
    rw [List.map_cons, List.nodup_cons] at hnodup
    rw [List.foldl_cons]
    rcases List.mem_cons.mp hv with rfl | hv
    · rw [foldl_guard_of_notMem hnodup.1, guard]
      cases guardTest? v.node with
      | none => exact hplan
      | some test => exact Function.update_self ..
    · refine ih hnodup.2 hv ?_
      have hne : v.path ≠ w.path := fun heq => hnodup.1 (List.mem_map.mpr ⟨v, hv, heq⟩)
      rw [guard_of_ne hne, hplan]

/-- What the plan says after some heads it said before, or it is the test of one of them. -/
theorem eq_some_of_foldl_guard {vs : List Visit} {test : SelectorTest} (h : (vs.foldl guard plan) p = some test) :
    plan p = some test ∨ ∃ v ∈ vs, guardTest? v.node = some test := by
  induction vs generalizing plan with
  | nil => exact .inl h
  | cons w vs ih =>
    rcases ih h with hown | ⟨v, hv, htest⟩
    · by_cases hpath : p = w.path
      · rw [guard] at hown
        cases hw : guardTest? w.node with
        | none =>
          rw [hw] at hown
          exact .inl hown
        | some new =>
          rw [hw, hpath] at hown
          have hnew : plan.set w.path new w.path = some new := Function.update_self ..
          exact .inr ⟨w, List.mem_cons_self, hw.trans (hnew.symm.trans hown)⟩
      · rw [guard_of_ne hpath] at hown
        exact .inl hown
    · exact .inr ⟨v, List.mem_cons_of_mem _ hv, htest⟩

theorem relocate_none (t : Tree) (p : TreePath) : relocate (fun _ => none) t p = p := by
  induction p generalizing t with
  | nil => rfl
  | cons s p ih =>
    have hinto : into (fun _ => none) t s = fun _ => none := by
      funext q
      cases q with
      | nil => rw [into, ite_self]
      | cons _ _ => rfl
    rw [relocate]
    cases t.step? s with
    | none => rfl
    | some c => simp [detour, hinto, ih]

/-! ## The plan of a tree -/

theorem into_ofTree {own : Option SelectorTest} {s : Step} {c : Tree} (hfs : (t.fields.map Prod.fst).Nodup)
    (hc : (s, c) ∈ t.children) : (ofTree own t).into t s = ofTree (childGuard own t s c) c := by
  funext p
  cases p with
  | nil =>
    have hchild : ofTree own t [s] = childGuard none t s c := by
      rw [ofTree, step?_of_mem_children hfs hc, Option.bind_some, ofTree]
    rw [into, hchild]
    show (if continues t s then own else childGuard none t s c) = childGuard own t s c
    rw [childGuard, childGuard]
    split <;> rfl
  | cons s' p => rw [into, ofTree, step?_of_mem_children hfs hc, Option.bind_some, ofTree, ofTree]

/-- What the plan of a tree says at a visit. -/
theorem ofTree_path {own : Option SelectorTest} (ht : t.HasDistinctFields) {v : Visit} (hv : v ∈ t.walk)
    (hne : v.path ≠ []) : ofTree own t v.path = if v.isElseBranch then none else guardTest? v.node := by
  induction t using induction_children generalizing own v with
  | step t ih =>
    obtain ⟨c, hc, u, hu, rfl⟩ := mem_walk_below hv hne
    rw [isElseBranch_under hu, Visit.under_path, Visit.under_node]
    show ofTree own t (c.1 :: u.path) = _
    rw [ofTree, step?_of_mem_children ht.self hc, Option.bind_some]
    rcases root_or_below_of_mem_walk hu with rfl | ⟨hbelow, -⟩
    · have hempty : (Visit.root c.2).path.isEmpty = true := rfl
      rw [hempty, if_pos rfl]
      show childGuard none t c.1 c.2 = if c.1.field == "alternate" && t.isConditional then none else guardTest? c.2
      rw [childGuard, continues]
      cases hcond : t.isConditional with
      | false => simp
      | true =>
        by_cases hfield : c.1.field = "alternate"
        · simp [hfield]
        · have hstep : c.1 ≠ alternateStep := fun heq => hfield (by rw [heq]; rfl)
          simp [hfield, hstep]
    · have hempty : u.path.isEmpty = false := by simpa using hbelow
      rw [ih c hc (ht.child hc) hu hbelow, hempty, if_neg Bool.false_ne_true]

end Plan

/-! ## The whole run -/

/-- To treat some heads of a tree, in whatever order, is to carry out the plan with their tests. -/
theorem steps_eq_apply_of_mem_heads {t : Tree} (ht : t.HasDistinctFields) {vs : List Visit}
    (hvs : ∀ v ∈ vs, v ∈ DepthIndex.heads t) (hnodup : (vs.map Visit.path).Nodup) :
    steps t (vs.map Visit.path) =
      ((vs.foldl Plan.guard fun _ => none).apply t, vs.map fun v => outcome v.node) := by
  have hheads : ∀ v ∈ vs, t.LeadsToHead v.path v.node ∧ v.node.isConditional := fun v hv =>
    ⟨DepthIndex.leadsToHead_of_mem_heads (hvs v hv), (DepthIndex.mem_heads_iff.mp (hvs v hv)).2.1⟩
  -- Before the first step nothing is planned.
  let plan : Plan := fun _ => none
  have hsteps : steps (plan.apply t) (vs.map fun v => plan.relocate t v.path) =
      ((vs.foldl Plan.guard plan).apply t, vs.map fun v => outcome v.node) :=
    Plan.steps_relocate ht hheads hnodup fun _ _ => rfl
  simp only [plan, Plan.apply_none, Plan.relocate_none] at hsteps
  exact hsteps

theorem steps_eq_apply {t : Tree} (ht : t.HasDistinctFields) {vs : List Visit} (hvs : vs.Perm (DepthIndex.heads t)) :
    steps t (vs.map Visit.path) =
      ((vs.foldl Plan.guard fun _ => none).apply t, vs.map fun v => outcome v.node) :=
  steps_eq_apply_of_mem_heads ht (fun _ => hvs.mem_iff.mp)
    ((hvs.map Visit.path).nodup_iff.mpr (DepthIndex.nodup_paths_heads ht))

/-- What the plan of a tree says at a visit, the root included. -/
theorem ofTree_guardTest?_path {t : Tree} (ht : t.HasDistinctFields) {v : Visit} (hv : v ∈ t.walk) :
    Plan.ofTree (guardTest? t) t v.path = if v.isElseBranch then none else guardTest? v.node := by
  rcases root_or_below_of_mem_walk hv with rfl | ⟨hne, -⟩
  · rfl
  · exact Plan.ofTree_path ht hv hne

/-- After the last step the plan has at every visit what the plan of the tree has there. -/
theorem foldl_guard_heads {t : Tree} (ht : t.HasDistinctFields) {vs : List Visit} (hvs : vs.Perm (DepthIndex.heads t))
    {v : Visit} (hv : v ∈ t.walk) :
    (vs.foldl Plan.guard fun _ => none) v.path = if v.isElseBranch then none else guardTest? v.node := by
  have hnodup : (vs.map Visit.path).Nodup := (hvs.map Visit.path).nodup_iff.mpr (DepthIndex.nodup_paths_heads ht)
  by_cases hhead : v ∈ DepthIndex.heads t
  · obtain ⟨-, -, helse⟩ := DepthIndex.mem_heads_iff.mp hhead
    rw [Plan.foldl_guard_of_mem hnodup (hvs.mem_iff.mpr hhead) rfl, helse, if_neg Bool.false_ne_true]
  · -- No other visit has the path of this one, so no head has it.
    have hnot : v.path ∉ vs.map Visit.path := by
      intro hpath
      obtain ⟨w, hw, heq⟩ := List.mem_map.mp hpath
      have hwhead := hvs.mem_iff.mp hw
      have hsame : w = v :=
        List.inj_on_of_nodup_map (nodup_paths_walk ht) (DepthIndex.mem_heads_iff.mp hwhead).1 hv heq
      exact hhead (hsame ▸ hwhead)
    rw [Plan.foldl_guard_of_notMem hnot]
    rw [DepthIndex.mem_heads_iff, not_and, not_and] at hhead
    split
    · rfl
    · rename_i helse
      rw [guardTest?, if_neg fun hcond => hhead hv hcond (by simpa using helse)]

/-- The pass is one recursion over the tree, in whatever order it treats the heads. -/
theorem steps_fst_eq_guarded {t : Tree} (ht : t.HasDistinctFields) {vs : List Visit}
    (hvs : vs.Perm (DepthIndex.heads t)) : (steps t (vs.map Visit.path)).1 = guarded (guardTest? t) t := by
  rw [steps_eq_apply ht hvs, guarded]
  refine Plan.apply_congr fun p u hp => ?_
  obtain ⟨v, hv, rfl, rfl⟩ := exists_mem_walk_of_leads hp
  rw [foldl_guard_heads ht hvs hv, ofTree_guardTest?_path ht hv]

theorem run_fst_eq_guarded {t : Tree} (ht : t.HasDistinctFields) : (run t).1 = guarded (guardTest? t) t :=
  steps_fst_eq_guarded ht (DepthIndex.outerFirst_perm t)

/-- The fates of the chains are those that they have in the original tree. -/
theorem run_snd {t : Tree} (ht : t.HasDistinctFields) :
    (run t).2 = (DepthIndex.ofTree t).outerFirst.map fun v => outcome v.node := by
  rw [run, steps_eq_apply ht (DepthIndex.outerFirst_perm t)]

/-- In whatever order the heads are treated, as many chains are guarded as get a test. -/
theorem guardedCount_outcomes {t : Tree} {vs : List Visit} (hvs : vs.Perm (DepthIndex.heads t)) :
    guardedCount (vs.map fun v => outcome v.node) =
      (DepthIndex.heads t).countP fun v => (guardTest? v.node).isSome := by
  rw [guardedCount, List.countP_map, hvs.countP_eq]
  refine List.countP_congr fun v hv => ?_
  obtain ⟨-, hcond, -⟩ := DepthIndex.mem_heads_iff.mp hv
  rw [Function.comp_apply, isGuarded_outcome hcond]

variable {own : Option SelectorTest} {t : Tree}

/-- What the pass makes of a child. -/
def guardedChild (own : Option SelectorTest) (t : Tree) (s : Step) (c : Tree) : Tree :=
  if continues t s then guardBlock own (guarded own c) else guarded (childGuard own t s c) c

theorem applyChild_ofTree {s : Step} {c : Tree} (hfs : (t.fields.map Prod.fst).Nodup) (hc : (s, c) ∈ t.children) :
    (Plan.ofTree own t).applyChild t s c = guardedChild own t s c := by
  rw [Plan.applyChild, Plan.into_ofTree hfs hc, ← guarded, guardedChild, Plan.ofTree]
  cases hs : continues t s with
  | false => rfl
  | true => rw [if_pos rfl, if_pos rfl, childGuard, if_pos hs]

/-- A chain hands its test on, every other child is treated as a head. -/
theorem guarded_eq (own : Option SelectorTest) (hfs : (t.fields.map Prod.fst).Nodup) :
    guarded own t = t.mapChildren (guardedChild own t) := by
  rw [guarded, Plan.apply_eq]
  exact mapChildren_congr fun c hc => applyChild_ofTree hfs hc

@[simp] theorem tag?_guarded (own : Option SelectorTest) (t : Tree) : (guarded own t).tag? = t.tag? :=
  Plan.tag?_apply _ t

@[simp] theorem hasTag_guarded (own : Option SelectorTest) (t : Tree) (tag : String) :
    (guarded own t).hasTag tag = t.hasTag tag :=
  Plan.hasTag_apply _ t tag

@[simp] theorem isNode_guarded (own : Option SelectorTest) (t : Tree) : (guarded own t).isNode = t.isNode :=
  Plan.isNode_apply _ t

@[simp] theorem isConditional_guarded (own : Option SelectorTest) (t : Tree) :
    (guarded own t).isConditional = t.isConditional :=
  Plan.isConditional_apply _ t

@[simp] theorem isBlock_guarded (own : Option SelectorTest) (t : Tree) : (guarded own t).isBlock = t.isBlock :=
  Plan.isBlock_apply _ t

/-- A chain that gets a test ends in no block afterwards; any other ends in a block if it did before. -/
theorem isBlock_finalElse_guarded (own : Option SelectorTest) (ht : t.isConditional) :
    (guarded own t).finalElse.isBlock = (t.finalElse.isBlock && own.isNone) :=
  Plan.isBlock_finalElse_apply _ ht

theorem isNode_guardedChild (s : Step) (c : Tree) (h : c.isNode) : (guardedChild own t s c).isNode := by
  rw [guardedChild]
  split
  · exact isNode_guardBlock (by simpa using h) own
  · simpa using h

theorem map_fst_fields_guarded (own : Option SelectorTest) (t : Tree) :
    (guarded own t).fields.map Prod.fst = t.fields.map Prod.fst := by
  rw [guarded, Plan.apply_eq, map_fst_fields_mapChildren]

/-- The children of a tree with guarded `else` parts, one by one. -/
theorem children_guarded (own : Option SelectorTest) (hfs : (t.fields.map Prod.fst).Nodup) :
    (guarded own t).children = t.children.map fun c => (c.1, guardedChild own t c.1 c.2) := by
  rw [guarded_eq own hfs, children_mapChildren isNode_guardedChild]

/-! ## Fields of a node -/

theorem get_guarded (own : Option SelectorTest) (ht : t.isNode) (hfs : (t.fields.map Prod.fst).Nodup) {name : String}
    (hn : isNote name = false) : (guarded own t).get name = mapSlot (guardedChild own t) name (t.get name) := by
  rw [guarded_eq own hfs, get_mapChildren ht _ hn]

theorem isNode_get_guarded (own : Option SelectorTest) (ht : t.isNode) {name : String} (hn : isNote name = false) :
    ((guarded own t).get name).isNode = (t.get name).isNode :=
  Plan.isNode_get_apply _ ht hn

/-- A node in a field that is no `else` part is treated as a head. -/
theorem get_guarded_of_isNode (own : Option SelectorTest) (ht : t.isNode) (hfs : (t.fields.map Prod.fst).Nodup)
    {name : String} (hn : isNote name = false) (halt : name ≠ "alternate") (hc : (t.get name).isNode) :
    (guarded own t).get name = guarded (guardTest? (t.get name)) (t.get name) := by
  have hs : continues t ⟨name, none⟩ = false := by simp [continues, alternateStep, halt]
  rw [get_guarded own ht hfs hn, mapSlot_of_isNode hc, guardedChild, hs, if_neg Bool.false_ne_true, childGuard, hs,
    if_neg Bool.false_ne_true]
  simp [halt]

/-- The `else` part of a member goes on with the test of the chain. -/
theorem alternate_guarded (own : Option SelectorTest) (ht : t.isConditional) (hfs : (t.fields.map Prod.fst).Nodup)
    (hc : (t.get "alternate").isNode) :
    (guarded own t).get "alternate" = guardBlock own (guarded own (t.get "alternate")) := by
  have hs : continues t ⟨"alternate", none⟩ := continues_iff.mpr ⟨ht, rfl⟩
  rw [get_guarded own (isNode_of_isConditional ht) hfs rfl, mapSlot_of_isNode hc, guardedChild, if_pos hs]

/-- A tree without `if` statements stays as it is. -/
theorem guarded_eq_self {own : Option SelectorTest} {t : Tree} (ht : t.HasDistinctFields) (h : t.HasNoConditional) :
    guarded own t = t := by
  induction t using induction_children generalizing own with
  | step t ih =>
    rw [guarded_eq own ht.self]
    refine mapChildren_eq_self fun c hc => ?_
    have hs : continues t c.1 = false := by simp [continues, h.self]
    rw [guardedChild, hs, if_neg Bool.false_ne_true]
    exact ih c hc (ht.child hc) (h.child hc)

end Deflatten.ElseGuard
