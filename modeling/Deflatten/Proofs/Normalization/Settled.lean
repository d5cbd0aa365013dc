import Deflatten.Proofs.Normalization.FlatChains
import Deflatten.Proofs.Normalization.NodeOrder
/-!
# Trees that a pass leaves alone

A tree is settled for a pass if the pass finds nothing to rewrite in it. A settled tree is left as it is
(`ElseGuard.run_of_isSettled`, `RangeTest.lower_of_isSettled`), and what a pass makes is settled for that pass
(`ElseGuard.isSettled_run`, `RangeTest.isSettled_lower`). Guarding leaves as many range tests as there were
(`ElseGuard.countP_isLowerable_run`), and takes one block from the end of a chain with every rewrite
(`ElseGuard.blockEnds_run`).
-/

namespace Deflatten

namespace Tree

variable {t : Tree}

/-- A script tree is a node, no node of which has a field twice and no literal of which has child nodes. -/
structure IsScriptTree (t : Tree) : Prop where
  isNode : t.isNode
  fields : t.HasDistinctFields
  literals : t.HasPlainLiterals

instance (t : Tree) : Decidable t.IsScriptTree :=
  decidable_of_iff (t.isNode ∧ t.HasDistinctFields ∧ t.HasPlainLiterals)
    ⟨fun ⟨hnode, hfields, hliterals⟩ => ⟨hnode, hfields, hliterals⟩, fun h => ⟨h.isNode, h.fields, h.literals⟩⟩

theorem countP_nodes (p : Tree → Bool) (t : Tree) :
    t.nodes.countP p = (t.children.flatMap fun c => c.2.nodes).countP p + if p t then 1 else 0 := by
  rw [nodes_eq, List.countP_cons]

theorem isConditional_of_mem_headNodes {isElse : Bool} {u : Tree} (h : u ∈ t.headNodes isElse) : u.isConditional := by
  rw [headNodes_eq_headPlaces] at h
  obtain ⟨q, hq, rfl⟩ := List.mem_map.mp h
  exact isConditional_of_mem_headPlaces hq

end Tree

namespace RangeTest

open Deflatten.Tree

variable {t : Tree}

/-- Whether a node is a range test `v < N` with `N - 1` not below zero. -/
def isLowerable (t : Tree) : Bool :=
  (SelectorTest.ofTree? t).any fun test => test.operator == SelectorTest.lessThan && !test.value.pred.isNegative

/-- No node of a tree is a range test to be lowered. -/
def IsSettled (t : Tree) : Prop := ∀ u ∈ t.nodes, isLowerable u = false

theorem isSettled_iff_countP : IsSettled t ↔ t.nodes.countP isLowerable = 0 := by
  rw [List.countP_eq_zero]
  exact forall₂_congr fun u _ => (Bool.not_eq_true _).symm.to_iff

theorem isSome_lowered? (t : Tree) : (lowered? t).isSome = isLowerable t := by
  rw [lowered?_eq, isLowerable]
  cases SelectorTest.ofTree? t with
  | none => rfl
  | some test =>
    rw [Option.bind_some, Option.any_some]
    split <;> simp_all

theorem lowered?_of_not_isLowerable (h : isLowerable t = false) : lowered? t = none := by
  rw [← isSome_lowered?] at h
  simpa using h

theorem isLowerable_of_not_binary (h : t.hasTag Tag.binary = false) : isLowerable t = false := by
  rw [← isSome_lowered?, lowered?_of_not_binary h]
  rfl

/-- What has been lowered is no range test any more. -/
theorem isLowerable_lower (t : Tree) : isLowerable (lower t) = false := by
  rw [isLowerable, ofTree?_lower]
  cases h : lowered? t with
  | some test =>
    obtain ⟨range, -, -, -, rfl⟩ := lowered?_eq_some_iff.mp h
    rfl
  | none =>
    have hnot : isLowerable t = false := by rw [← isSome_lowered?, h]; rfl
    exact hnot

/-! ## Lowering -/

/-- What lowering makes of a tree is settled. -/
theorem isSettled_lower (ht : t.HasDistinctFields) : IsSettled (lower t) := by
  intro w hw
  rcases mem_nodes_lower ht hw with ⟨u, -, rfl⟩ | ⟨n, rfl⟩
  · exact isLowerable_lower u
  · exact isLowerable_of_not_binary rfl

/-- A settled tree is left as it is. -/
theorem lower_of_isSettled (hnode : t.isNode) (h : IsSettled t) : lower t = t := by
  induction t using induction_children with
  | step t ih =>
    rw [lower_eq_mapChildren hnode (lowered?_of_not_isLowerable (h t t.mem_nodes_self))]
    exact mapChildren_eq_self fun c hc =>
      ih c hc (isNode_of_mem_children hc) fun u hu => h u (mem_nodes_of_child hc hu)

theorem hasPlainLiterals_lower (ht : t.HasDistinctFields) (hl : t.HasPlainLiterals) : (lower t).HasPlainLiterals := by
  intro w hw htag
  rcases mem_nodes_lower ht hw with ⟨u, hu, rfl⟩ | ⟨n, rfl⟩
  · rw [children_lower (ht u hu), hl u hu (by rwa [hasTag_lower] at htag), List.map_nil]
  · exact children_number n

theorem isScriptTree_lower (h : t.IsScriptTree) : (lower t).IsScriptTree :=
  ⟨by rw [isNode_lower]; exact h.isNode, hasDistinctFields_lower h.fields, hasPlainLiterals_lower h.fields h.literals⟩

/-! ## Counting -/

theorem countItems_eq {name : String} {i : Nat} {ts : List Tree}
    (h : ∀ c ∈ itemChildren name i ts, count c.2 = c.2.nodes.countP isLowerable) :
    countItems ts = ((itemChildren name i ts).flatMap fun c => c.2.nodes).countP isLowerable := by
  induction ts generalizing i with
  | nil => rfl
  | cons u us ih =>
    rw [itemChildren] at h
    rw [countItems, itemChildren]
    cases hu : u.isNode with
    | true =>
      rw [hu, if_pos rfl] at h
      rw [if_pos rfl, if_pos rfl, List.flatMap_cons, List.countP_append, h _ List.mem_cons_self,
        ih fun c hc => h c (List.mem_cons_of_mem _ hc)]
    | false =>
      rw [hu, if_neg Bool.false_ne_true] at h
      rw [if_neg Bool.false_ne_true, if_neg Bool.false_ne_true, Nat.zero_add, ih h]

theorem count_slot {name : String} {value : Tree}
    (h : ∀ c ∈ slotChildren name value, count c.2 = c.2.nodes.countP isLowerable) :
    count value = ((slotChildren name value).flatMap fun c => c.2.nodes).countP isLowerable := by
  cases value with
  | scalar _ => rfl
  | record _ => rfl
  | list ts => exact countItems_eq h
  | node tag fs => rw [h (⟨name, none⟩, .node tag fs) List.mem_cons_self, slotChildren, List.flatMap_singleton]

theorem countFields_eq {own : Bool} {fs : List (String × Tree)}
    (hown : own → ∀ value, ("right", value) ∈ fs →
      ((slotChildren "right" value).flatMap fun c => c.2.nodes).countP isLowerable = 0)
    (h : ∀ c ∈ fieldChildren fs, count c.2 = c.2.nodes.countP isLowerable) :
    countFields own fs = ((fieldChildren fs).flatMap fun c => c.2.nodes).countP isLowerable := by
  induction fs with
  | nil => rfl
  | cons field fs ih =>
    obtain ⟨name, value⟩ := field
    rw [fieldChildren] at h
    have hrest := ih (fun ho v hv => hown ho v (List.mem_cons_of_mem _ hv))
      fun c hc => h c (List.mem_append_right _ hc)
    rw [countFields, fieldChildren, List.flatMap_append, List.countP_append, hrest]
    congr 1
    cases hn : isNote name with
    | true => rw [Bool.or_true, if_pos rfl, if_pos rfl]; rfl
    | false =>
      rw [hn, if_neg Bool.false_ne_true] at h
      rw [Bool.or_false, if_neg Bool.false_ne_true]
      cases hright : own && name == "right" with
      | true =>
        -- The right operand of a lowered comparison is a literal, and is replaced.
        rw [Bool.and_eq_true, beq_iff_eq] at hright
        obtain ⟨ho, rfl⟩ := hright
        rw [if_pos rfl, hown ho value List.mem_cons_self]
      | false =>
        rw [if_neg Bool.false_ne_true]
        exact count_slot fun c hc => h c (List.mem_append_left _ hc)

/-- The right operand of a lowered comparison is a literal, which holds no range test. -/
theorem countP_isLowerable_right (ht : t.HasDistinctFields) (hl : t.HasPlainLiterals) (hown : (lowered? t).isSome)
    (hnode : t.isNode) {value : Tree} (hvalue : ("right", value) ∈ t.fields) :
    ((slotChildren "right" value).flatMap fun c => c.2.nodes).countP isLowerable = 0 := by
  obtain ⟨test, htest⟩ := Option.isSome_iff_exists.mp hown
  obtain ⟨range, hrange, -⟩ := lowered?_eq_some_iff.mp htest
  obtain ⟨-, -, -, hnumber, -⟩ := SelectorTest.ofTree?_eq_some hrange
  obtain rfl : t.get "right" = value := get_of_field? (lookup_of_mem ht.self hvalue)
  have htag := hasTag_of_number? hnumber
  have hright := isNode_of_hasTag htag
  rw [slotChildren_of_isNode hright, List.flatMap_singleton,
    nodes_of_no_children (hl _ (get_mem_nodes hnode rfl hright) htag), List.countP_singleton,
    isLowerable_of_not_binary (hasTag_of_ne htag (by decide)), if_neg Bool.false_ne_true]

/-- The number of range tests that are lowered is the number of those in the tree. -/
theorem count_eq (hnode : t.isNode) (ht : t.HasDistinctFields) (hl : t.HasPlainLiterals) :
    count t = t.nodes.countP isLowerable := by
  induction t using induction_children with
  | step t ih =>
    cases t with
    | node tag fs =>
      have hchildren : ∀ c ∈ fieldChildren fs, count c.2 = c.2.nodes.countP isLowerable := by
        intro c hc
        exact ih c hc (isNode_of_mem_children (t := .node tag fs) hc) (ht.child hc) (hl.child hc)
      rw [count, countP_nodes, ← isSome_lowered?]
      exact congrArg (· + _) (countFields_eq (fun hown _ hv => countP_isLowerable_right ht hl hown hnode hv) hchildren)
    | _ => cases hnode

end RangeTest

namespace ElseGuard

open Deflatten.Tree

variable {t : Tree} {own : Option SelectorTest}

/-- No chain of a tree gets a test. -/
def IsSettled (t : Tree) : Prop := ∀ u ∈ t.headNodes false, guardTest? u = none

/-- The number of guards that a run gives is the number of heads whose chains get a test. -/
theorem guardedCount_run (ht : t.HasDistinctFields) :
    guardedCount (run t).2 = (t.headNodes false).countP fun u => (guardTest? u).isSome := by
  rw [run_snd ht, guardedCount_outcomes (DepthIndex.outerFirst_perm t), ← heads_eq_headNodes, List.countP_map]
  rfl

/-! ## Settled trees -/

/-- A settled tree is left as it is. -/
theorem run_of_isSettled (ht : t.HasDistinctFields) (h : IsSettled t) : (run t).1 = t := by
  -- The plan of the run holds no test at any path that leads to a node.
  have hnothing : (run t).1 = Plan.apply (fun _ => none) t := by
    rw [run_fst_eq_guarded ht, guarded]
    refine Plan.apply_congr fun p u hp => ?_
    obtain ⟨v, hv, rfl, rfl⟩ := exists_mem_walk_of_leads hp
    rw [ofTree_guardTest?_path ht hv]
    cases helse : v.isElseBranch with
    | true => rfl
    | false =>
      rw [if_neg Bool.false_ne_true]
      cases hcond : v.node.isConditional with
      | false => rw [guardTest?, hcond, if_neg Bool.false_ne_true]
      | true =>
        have hhead : v ∈ DepthIndex.heads t := DepthIndex.mem_heads_iff.mpr ⟨hv, hcond, helse⟩
        refine h v.node ?_
        rw [← heads_eq_headNodes]
        exact List.mem_map_of_mem hhead
  rw [hnothing, Plan.apply_none]

theorem guardedCount_of_isSettled (ht : t.HasDistinctFields) (h : IsSettled t) : guardedCount (run t).2 = 0 := by
  rw [guardedCount_run ht, List.countP_eq_zero]
  intro u hu
  simp [h u hu]

/-- What the pass makes of a chain gets no test again. -/
theorem guardTest?_guarded (hcond : t.isConditional) : guardTest? (guarded (guardTest? t) t) = none := by
  have hcond' : (guarded (guardTest? t) t).isConditional := by rwa [isConditional_guarded]
  rw [guardTest?, if_pos hcond']
  cases hguard : guardTest? t with
  | none =>
    -- The rewrites elsewhere leave the fate of a chain as it is.
    have hsame : outcome (guarded none t) = outcome t := Plan.outcome_apply rfl hcond
    rw [hsame]
    rwa [guardTest?, if_pos hcond] at hguard
  | some test =>
    -- A guarded chain ends in its new member, which has no `else` part.
    have hend : (guarded (some test) t).finalElse.isBlock = false := by
      rw [isBlock_finalElse_guarded _ hcond, Option.isNone_some, Bool.and_false]
    rw [outcome, ← finalElse, hend, if_neg Bool.false_ne_true]
    rfl

/-- What the pass makes of a tree is settled. -/
theorem isSettled_run (ht : t.HasDistinctFields) : IsSettled (run t).1 := by
  intro w hw
  rw [run_fst_eq_guarded ht, headNodes_guarded ht fun _ _ => rfl] at hw
  obtain ⟨u, hu, rfl⟩ := List.mem_map.mp hw
  exact guardTest?_guarded (isConditional_of_mem_headNodes hu)

theorem isScriptTree_run (h : t.IsScriptTree) : (run t).1.IsScriptTree := by
  rw [run_fst_eq_guarded h.fields]
  refine ⟨?_, hasDistinctFields_guarded h.fields, hasPlainLiterals_guarded h.fields h.literals⟩
  rw [isNode_guarded]
  exact h.isNode

/-! ## Ends of chains -/

/-- How many chains of a tree end in a block. -/
def blockEnds (t : Tree) : Nat := (t.headNodes false).countP fun u => u.finalElse.isBlock

/-- Every guard takes one block from the end of a chain. -/
theorem blockEnds_run (ht : t.HasDistinctFields) : blockEnds (run t).1 + guardedCount (run t).2 = blockEnds t := by
  -- The heads whose chains get no test keep their ends; all the others ended in a block.
  have hkept : blockEnds (run t).1 =
      ((t.headNodes false).filter fun u => !(guardTest? u).isSome).countP fun u => u.finalElse.isBlock := by
    rw [blockEnds, run_fst_eq_guarded ht, headNodes_guarded ht fun _ _ => rfl, List.countP_map, List.countP_filter]
    refine List.countP_congr fun u hu => ?_
    rw [Function.comp_apply, isBlock_finalElse_guarded _ (isConditional_of_mem_headNodes hu), Option.not_isSome]
  have htaken : guardedCount (run t).2 =
      ((t.headNodes false).filter fun u => (guardTest? u).isSome).countP fun u => u.finalElse.isBlock := by
    rw [guardedCount_run ht, List.countP_filter]
    refine List.countP_congr fun u _ => ?_
    cases hguard : guardTest? u with
    | none => simp
    | some test =>
      obtain ⟨-, houtcome⟩ := guardTest?_eq_some hguard
      simp [(outcome_eq_guarded_iff.mp houtcome).1]
  rw [hkept, htaken, blockEnds, Nat.add_comm]
  exact (List.countP_eq_countP_filter_add _ _ _).symm

theorem blockEnds_lower (h : t.IsScriptTree) : blockEnds (RangeTest.lower t) = blockEnds t := by
  rw [blockEnds, RangeTest.headNodes_lower h.fields h.literals, List.countP_map, blockEnds]
  refine List.countP_congr fun u hu => ?_
  rw [Function.comp_apply, RangeTest.finalElse_lower (isConditional_of_mem_headNodes hu), RangeTest.isBlock_lower]

/-! ## Range tests -/

theorem isLowerable_toTree {test : SelectorTest} (h : test.isEquality) :
    RangeTest.isLowerable test.toTree = false := by
  rw [RangeTest.isLowerable]
  cases hread : SelectorTest.ofTree? test.toTree with
  | none => rfl
  | some range =>
    obtain ⟨-, hop, -⟩ := SelectorTest.ofTree?_eq_some hread
    have hop : test.operator = range.operator := by simpa [SelectorTest.toTree, operator?, text, text?] using hop
    rw [SelectorTest.isEquality, beq_iff_eq] at h
    rw [Option.any_some, ← hop, h]
    rfl

/-- Guarding leaves the range tests that are lowered as they are, and what each is lowered to. -/
theorem filterMap_lowered?_run (ht : t.HasDistinctFields) :
    (run t).1.nodes.filterMap RangeTest.lowered? = t.nodes.filterMap RangeTest.lowered? := by
  have hread : ReadsNoGuard RangeTest.lowered? :=
    { member := fun _ _ => RangeTest.lowered?_of_not_binary rfl
      test := fun _ h => RangeTest.lowered?_of_not_isLowerable (isLowerable_toTree h)
      name := fun _ => RangeTest.lowered?_of_not_binary rfl
      number := fun _ => RangeTest.lowered?_of_not_binary rfl }
  refine filterMap_nodes_run ht hread fun own u _ => ?_
  rw [RangeTest.lowered?_eq, RangeTest.lowered?_eq, guarded, Plan.ofTree?_apply]

/-- Guarding leaves as many range tests as there were. -/
theorem countP_isLowerable_run (ht : t.HasDistinctFields) :
    (run t).1.nodes.countP RangeTest.isLowerable = t.nodes.countP RangeTest.isLowerable := by
  have hcount : ∀ us : List Tree, us.countP RangeTest.isLowerable = (us.filterMap RangeTest.lowered?).length := by
    intro us
    rw [List.length_filterMap_eq_countP]
    exact List.countP_congr fun u _ => by rw [RangeTest.isSome_lowered?]
  rw [hcount, hcount, filterMap_lowered?_run ht]

end ElseGuard
end Deflatten
