import Deflatten.Normalization.Basic
import Deflatten.Proofs.Normalization.Lowering
import Deflatten.Proofs.Normalization.Run
import Deflatten.Proofs.Tree.Members
/-!
# Heads before and after

A normalized tree has the same chains as the tree: in document order, each of its heads is what both passes make of one
head of the tree alone (`Normalized.heads_ofTree`). Literals are taken to have no child nodes, as a lowered comparison
loses the literal that it had.
-/

namespace Deflatten

namespace Tree

variable {t : Tree}

/-- The heads in a tree, of whose root it is known whether it stands in the `else` part of an `if` statement. -/
def headNodes (isElse : Bool) (t : Tree) : List Tree := (t.walk.filter (isHead isElse)).map Visit.node

theorem headNodes_eq_headPlaces (isElse : Bool) (t : Tree) :
    t.headNodes isElse = (t.headPlaces isElse).map Prod.snd := by
  rw [headNodes, headPlaces, List.map_map]
  rfl

theorem heads_eq_headNodes (t : Tree) : (DepthIndex.heads t).map Visit.node = t.headNodes false := by
  rw [headNodes_eq_headPlaces, ← heads_eq_headPlaces, List.map_map]
  rfl

/-- The root comes first if it is a head, then the heads in each child. -/
theorem headNodes_eq (isElse : Bool) (t : Tree) :
    t.headNodes isElse = (if t.isConditional && !isElse then [t] else []) ++
      t.children.flatMap fun c => c.2.headNodes (c.1.field == "alternate" && t.isConditional) := by
  rw [headNodes_eq_headPlaces, headPlaces_eq, List.map_append, List.map_flatMap]
  congr 1
  · split <;> rfl
  · refine List.flatMap_congr fun c _ => ?_
    rw [headNodes_eq_headPlaces, List.map_map]
    rfl

theorem mem_headNodes_self (h : t.isConditional) : t ∈ t.headNodes false := by
  rw [headNodes_eq, h]
  exact List.mem_append_left _ (List.mem_singleton_self t)

theorem mem_headNodes_of_child {isElse : Bool} {c : Step × Tree} {u : Tree} (hc : c ∈ t.children)
    (hu : u ∈ c.2.headNodes (c.1.field == "alternate" && t.isConditional)) : u ∈ t.headNodes isElse := by
  rw [headNodes_eq]
  exact List.mem_append_right _ (List.mem_flatMap.mpr ⟨c, hc, hu⟩)

/-- Fewer heads are found in a tree if its root stands in the `else` part of an `if` statement. -/
theorem headNodes_true_subset {isElse : Bool} {u : Tree} (h : u ∈ t.headNodes true) : u ∈ t.headNodes isElse := by
  rw [headNodes_eq, Bool.not_true, Bool.and_false, if_neg Bool.false_ne_true, List.nil_append] at h
  rw [headNodes_eq]
  exact List.mem_append_right _ h

theorem headNodes_of_no_children {isElse : Bool} (h : t.isConditional = false) (hc : t.children = []) :
    t.headNodes isElse = [] := by
  rw [headNodes_eq, h, hc]
  rfl

/-! ## Literals -/

/-- No literal of a tree has child nodes. -/
def HasPlainLiterals (t : Tree) : Prop := ∀ u ∈ t.nodes, u.hasTag Tag.literal → u.children = []

instance (t : Tree) : Decidable t.HasPlainLiterals :=
  inferInstanceAs (Decidable (∀ u ∈ t.nodes, u.hasTag Tag.literal → u.children = []))

theorem HasPlainLiterals.child {c : Step × Tree} (h : t.HasPlainLiterals) (hc : c ∈ t.children) :
    c.2.HasPlainLiterals :=
  fun u hu => h u (mem_nodes_of_child hc hu)

theorem children_toTree (test : SelectorTest) : test.toTree.children =
    [(⟨"left", none⟩, .node Tag.name [("name", .scalar test.name)]), (⟨"right", none⟩, .number test.value)] := by
  simp [SelectorTest.toTree, children, fieldChildren, slotChildren, isNote, text, number]

theorem nodes_of_no_children (h : t.children = []) : t.nodes = [t] := by
  rw [nodes_eq, h, List.flatMap_nil]

theorem children_name (name : Scalar) : (Tree.node Tag.name [("name", .scalar name)]).children = [] := by
  simp [children, fieldChildren, slotChildren]

theorem children_number (n : Number) : (Tree.number n).children = [] := by
  simp [number, children, fieldChildren, slotChildren, text]

theorem nodes_toTree (test : SelectorTest) : test.toTree.nodes =
    [test.toTree, .node Tag.name [("name", .scalar test.name)], .number test.value] := by
  rw [nodes_eq, children_toTree, List.flatMap_cons, List.flatMap_cons, nodes_of_no_children (children_name _),
    nodes_of_no_children (children_number _)]
  rfl

/-- An `if` statement without `else` has its test and its branch as children. -/
theorem children_ifThen {test branch : Tree} (ht : test.isNode) (hb : branch.isNode) :
    (ifThen test branch .null).children = [(⟨"test", none⟩, test), (⟨"consequent", none⟩, branch)] := by
  simp [ifThen, children, fieldChildren, isNote, null, slotChildren_of_isNode ht, slotChildren_of_isNode hb]
  rfl

end Tree

namespace ElseGuard

open Deflatten.Tree

variable {t : Tree} {own : Option SelectorTest}

theorem headNodes_toTree (test : SelectorTest) (isElse : Bool) : test.toTree.headNodes isElse = [] := by
  have hname : ∀ b, (Tree.node Tag.name [("name", .scalar test.name)]).headNodes b = [] :=
    fun _ => headNodes_of_no_children rfl (children_name test.name)
  have hnumber : ∀ b, (Tree.number test.value).headNodes b = [] :=
    fun _ => headNodes_of_no_children rfl (children_number test.value)
  have hcond : test.toTree.isConditional = false := rfl
  rw [headNodes_eq, children_toTree, hcond]
  simp [hname, hnumber]

theorem headPlaces_toTree (test : SelectorTest) (isElse : Bool) : test.toTree.headPlaces isElse = [] := by
  have hnodes := headNodes_toTree test isElse
  rw [headNodes_eq_headPlaces] at hnodes
  exact List.map_eq_nil_iff.mp hnodes

/-- The heads in a block lie one step deeper if it has a test before it. -/
theorem headPlaces_guardBlock (own : Option SelectorTest) (t : Tree) :
    (guardBlock own t).headPlaces true =
      (t.headPlaces true).map fun q => ((if t.isBlock && own.isSome then [consequentStep] else []) ++ q.1, q.2) := by
  cases own with
  | none => simp
  | some test =>
    rw [guardBlock]
    cases hblock : t.isBlock with
    | false => simp
    | true =>
      have hnode : t.isNode := isNode_of_hasTag hblock
      have hcond : t.isConditional = false := hasTag_of_ne hblock (by decide)
      have hhere : t.headPlaces false = t.headPlaces true := by
        rw [headPlaces_false, hcond, if_neg Bool.false_ne_true, List.nil_append]
      rw [if_pos rfl, headPlaces_eq, children_ifThen rfl hnode]
      simp [headPlaces_toTree, hhere, placeBelow, consequentStep]

/-- A block holds the same heads if it has a test before it. -/
theorem headNodes_guardBlock (own : Option SelectorTest) (t : Tree) :
    (guardBlock own t).headNodes true = t.headNodes true := by
  rw [headNodes_eq_headPlaces, headPlaces_guardBlock, List.map_map, headNodes_eq_headPlaces]
  rfl

/-- The heads are what the plan makes of the heads, each at its new path. -/
theorem headPlaces_apply {plan : Plan} (ht : t.HasDistinctFields) (isElse : Bool) :
    (plan.apply t).headPlaces isElse =
      (t.headPlaces isElse).map fun q => (plan.relocate t q.1, (plan.along t q.1).apply q.2) := by
  induction t using induction_children generalizing plan isElse with
  | step t ih =>
    rw [headPlaces_eq, headPlaces_eq isElse t, Plan.children_apply, Plan.isConditional_apply, List.map_append,
      List.flatMap_map, List.map_flatMap]
    congr 1
    · split <;> rfl
    · refine List.flatMap_congr fun c hc => ?_
      have hbelow : ((c.2.headPlaces (c.1.field == "alternate" && t.isConditional)).map (placeBelow c.1)).map
          (fun q => (plan.relocate t q.1, (plan.along t q.1).apply q.2)) =
            ((c.2.headPlaces (c.1.field == "alternate" && t.isConditional)).map fun q =>
              (plan.detour t c.1 c.2 ++ (plan.into t c.1).relocate c.2 q.1,
                ((plan.into t c.1).along c.2 q.1).apply q.2)).map (placeBelow c.1) := by
        rw [List.map_map, List.map_map]
        refine List.map_congr_left fun q _ => ?_
        simp only [Function.comp_apply, placeBelow, Plan.relocate_of_child ht hc, Plan.along_of_child ht hc]
      rw [hbelow]
      congr 1
      show (plan.applyChild t c.1 c.2).headPlaces _ = _
      rw [Plan.applyChild, Plan.detour]
      cases hs : continues t c.1 with
      | false =>
        rw [if_neg Bool.false_ne_true, ih c hc (ht.child hc)]
        simp
      | true =>
        -- The child stands in the `else` part of a member.
        obtain ⟨hcond, hstep⟩ := continues_iff.mp hs
        have hfield : (c.1.field == "alternate" && t.isConditional) = true := by simp [hcond, hstep, alternateStep]
        rw [if_pos rfl, hfield, headPlaces_guardBlock, ih c hc (ht.child hc), List.map_map, Plan.isBlock_apply]
        simp [Function.comp_def]

/-- The heads are what the pass makes of each head alone. -/
theorem headNodes_guarded (ht : t.HasDistinctFields) {isElse : Bool}
    (hown : isElse = false → t.isConditional → own = guardTest? t) :
    (guarded own t).headNodes isElse = (t.headNodes isElse).map fun u => guarded (guardTest? u) u := by
  induction t using induction_children generalizing own isElse with
  | step t ih =>
    rw [headNodes_eq, headNodes_eq isElse t, children_guarded own ht.self, isConditional_guarded, List.map_append,
      List.flatMap_map, List.map_flatMap]
    congr 1
    · cases hcond : t.isConditional with
      | false => rfl
      | true =>
        cases isElse with
        | true => rfl
        | false =>
          rw [hown rfl hcond]
          rfl
    · refine List.flatMap_congr fun c hc => ?_
      rw [guardedChild]
      cases hs : continues t c.1 with
      | true =>
        -- In the `else` part of a member an `if` is no head, so that its own test does not matter.
        obtain ⟨hcond, hstep⟩ := continues_iff.mp hs
        have hfield : (c.1.field == "alternate" && t.isConditional) = true := by simp [hcond, hstep, alternateStep]
        rw [if_pos rfl, hfield, headNodes_guardBlock]
        exact ih c hc (ht.child hc) fun h => by cases h
      | false =>
        rw [if_neg Bool.false_ne_true]
        refine ih c hc (ht.child hc) fun hfield _ => ?_
        rw [childGuard, hs, if_neg Bool.false_ne_true, Bool.and_comm, hfield, if_neg Bool.false_ne_true]

/-- The tests that a guarded tree may have got: that of the chain to which its root belongs, and those of its heads. -/
def MayGet (own : Option SelectorTest) (t : Tree) (test : SelectorTest) : Prop :=
  own = some test ∨ ∃ u ∈ t.headNodes true, guardTest? u = some test

/-- The nodes that come with a test: the member that has it, and its own. -/
def ComesWith (test : SelectorTest) (w : Tree) : Prop :=
  (∃ block, w = ifThen test.toTree block .null) ∨ w ∈ test.toTree.nodes

/-- The nodes of a block that gets a test before it: those of the block, and those that come with the test. -/
theorem mem_nodes_guardBlock {w : Tree} (hnode : t.isNode) (h : w ∈ (guardBlock own t).nodes) :
    w ∈ t.nodes ∨ ∃ test, own = some test ∧ ComesWith test w := by
  cases own with
  | none => exact .inl h
  | some test =>
    rw [guardBlock] at h
    split at h
    · -- The test and the block are the only children of the new member.
      rcases mem_nodes_iff.mp h with rfl | ⟨d, hd, hw⟩
      · exact .inr ⟨test, rfl, .inl ⟨_, rfl⟩⟩
      · rw [children_ifThen rfl hnode] at hd
        rcases List.mem_cons.mp hd with rfl | hd
        · exact .inr ⟨test, rfl, .inr hw⟩
        · rw [List.mem_singleton] at hd
          subst hd
          exact .inl hw
    · exact .inl h

/-- The nodes of a tree for which a plan has been carried out: those of the tree, each treated by some plan, and those that
come with a test of the plan. What the plans for the parts of a node have from that for the node, all of them have. -/
theorem Plan.mem_nodes_apply {F : Plan → Tree → Prop} {plan : Plan} {w : Tree} (hplan : F plan t)
    (hinto : ∀ u ∈ t.nodes, ∀ plan, F plan u → ∀ c ∈ u.children, F (plan.into u c.1) c.2)
    (h : w ∈ (plan.apply t).nodes) :
    (∃ plan' : Plan, ∃ u ∈ t.nodes, F plan' u ∧ w = plan'.apply u) ∨
      ∃ p u test, t.Leads p u ∧ plan p = some test ∧ ComesWith test w := by
  induction t using induction_children generalizing plan w with
  | step t ih =>
    rcases mem_nodes_iff.mp h with rfl | ⟨c', hc', hw⟩
    · exact .inl ⟨plan, t, t.mem_nodes_self, hplan, rfl⟩
    · rw [children_apply] at hc'
      obtain ⟨c, hc, rfl⟩ := List.mem_map.mp hc'
      -- Nodes below a child are found below it by what the plan says there.
      have hbelow : w ∈ ((plan.into t c.1).apply c.2).nodes →
          (∃ plan' : Plan, ∃ u ∈ t.nodes, F plan' u ∧ w = plan'.apply u) ∨
            ∃ p u test, t.Leads p u ∧ plan p = some test ∧ ComesWith test w := by
        intro hmem
        rcases ih c hc (hinto t t.mem_nodes_self plan hplan c hc)
          (fun u hu => hinto u (mem_nodes_of_child hc hu)) hmem with
          ⟨plan', u, hu, hF, rfl⟩ | ⟨p, u, test, hp, htest, hnew⟩
        · exact .inl ⟨plan', u, mem_nodes_of_child hc hu, hF, rfl⟩
        · cases p with
          | cons s p => exact .inr ⟨c.1 :: s :: p, u, test, .child hc hp, htest, hnew⟩
          | nil =>
            rw [into] at htest
            split at htest
            · exact .inr ⟨[], t, test, .here t, htest, hnew⟩
            · exact .inr ⟨[c.1], u, test, .child hc hp, htest, hnew⟩
      simp only [applyChild] at hw
      split at hw
      · have hnode : ((plan.into t c.1).apply c.2).isNode := by simpa using isNode_of_mem_children hc
        rcases mem_nodes_guardBlock hnode hw with hmem | ⟨test, hroot, hnew⟩
        · exact hbelow hmem
        · exact .inr ⟨[], t, test, .here t, hroot, hnew⟩
      · exact hbelow hw

/-- The plan of a tree has the test of the chain to which its root belongs, and those of its heads. -/
theorem mayGet_of_leads {p : TreePath} {u : Tree} {test : SelectorTest} (ht : t.HasDistinctFields) (h : t.Leads p u)
    (hplan : Plan.ofTree own t p = some test) : MayGet own t test := by
  induction h generalizing own with
  | here => exact .inl hplan
  | @child t c u s p hc _ ih =>
    rw [Plan.ofTree, step?_of_mem_children ht.self hc, Option.bind_some] at hplan
    rcases ih (ht.child hc) hplan with hown | ⟨v, hv, hguard⟩
    · -- The child heads a chain of its own if it gets a test.
      rw [childGuard] at hown
      split at hown
      · cases hown
      · split at hown
        · cases hown
        · rename_i hfield
          rw [Bool.not_eq_true, Bool.and_comm] at hfield
          refine .inr ⟨c, mem_headNodes_of_child hc ?_, hown⟩
          rw [hfield]
          exact mem_headNodes_self (guardTest?_eq_some hown).1
    · exact .inr ⟨v, mem_headNodes_of_child hc (headNodes_true_subset hv), hguard⟩

/-- The nodes of a tree with guarded `else` parts: those of the tree, each treated with some test of its chain, and those
that come with a new test. -/
theorem mem_nodes_guarded {w : Tree} (ht : t.HasDistinctFields) (h : w ∈ (guarded own t).nodes) :
    (∃ own', ∃ u ∈ t.nodes, w = guarded own' u) ∨ ∃ test, MayGet own t test ∧ ComesWith test w := by
  -- Below every node the plan of the tree is a plan of the node.
  have hplans := Plan.mem_nodes_apply (F := fun plan u => ∃ own', plan = Plan.ofTree own' u) ⟨own, rfl⟩
    (fun u hu _ hown c hc => by
      obtain ⟨own', rfl⟩ := hown
      exact ⟨_, Plan.into_ofTree (ht u hu) hc⟩) h
  rcases hplans with ⟨_, u, hu, ⟨own', rfl⟩, rfl⟩ | ⟨p, u, test, hp, htest, hnew⟩
  · exact .inl ⟨own', u, hu, rfl⟩
  · exact .inr ⟨test, mayGet_of_leads ht hp htest, hnew⟩

/-- Every node of a tree is there afterwards, treated with some test of its chain. -/
theorem exists_guarded_mem_nodes {u : Tree} (ht : t.HasDistinctFields) (hu : u ∈ t.nodes) :
    ∃ own', guarded own' u ∈ (guarded own t).nodes := by
  induction t using induction_children generalizing own with
  | step t ih =>
    rcases mem_nodes_iff.mp hu with rfl | ⟨c, hc, hu⟩
    · exact ⟨own, mem_nodes_self _⟩
    · have hmem : (c.1, guardedChild own t c.1 c.2) ∈ (guarded own t).children := by
        rw [children_guarded own ht.self]
        exact List.mem_map_of_mem hc
      have hblock : ∀ own', ∀ w ∈ (guarded own' c.2).nodes, w ∈ (guardBlock own (guarded own' c.2)).nodes := by
        intro own' w hw
        cases own with
        | none => exact hw
        | some test =>
          rw [guardBlock]
          split
          · refine mem_nodes_of_child (c := (⟨"consequent", none⟩, guarded own' c.2)) ?_ hw
            rw [children_ifThen rfl (by simpa using isNode_of_mem_children hc)]
            simp
          · exact hw
      by_cases hs : continues t c.1
      · obtain ⟨own', hown⟩ : ∃ own', guarded own' u ∈ (guarded own c.2).nodes := ih c hc (ht.child hc) hu
        refine ⟨own', mem_nodes_of_child hmem ?_⟩
        rw [guardedChild, if_pos hs]
        exact hblock own _ hown
      · obtain ⟨own', hown⟩ : ∃ own', guarded own' u ∈ (guarded (childGuard own t c.1 c.2) c.2).nodes :=
          ih c hc (ht.child hc) hu
        refine ⟨own', mem_nodes_of_child hmem ?_⟩
        rw [guardedChild, if_neg hs]
        exact hown

/-- What holds of every node that is treated and of the new nodes holds of every node. -/
theorem forall_mem_nodes_guarded {P : Tree → Prop} (ht : t.HasDistinctFields)
    (hold : ∀ own', ∀ u ∈ t.nodes, P (guarded own' u))
    (hnew : ∀ (test : SelectorTest) (block : Tree), P (ifThen test.toTree block .null))
    (htest : ∀ test : SelectorTest, ∀ w ∈ test.toTree.nodes, P w) : ∀ w ∈ (guarded own t).nodes, P w := by
  intro w hw
  rcases mem_nodes_guarded ht hw with ⟨own', u, hu, rfl⟩ | ⟨test, -, ⟨block, rfl⟩ | hw⟩
  · exact hold own' u hu
  · exact hnew test block
  · exact htest test w hw

theorem ComesWith.nodup_fields {test : SelectorTest} {w : Tree} (h : ComesWith test w) :
    (w.fields.map Prod.fst).Nodup := by
  rcases h with ⟨block, rfl⟩ | hw
  · simp [ifThen, fields]
  · rw [nodes_toTree] at hw
    simp only [List.mem_cons, List.not_mem_nil, or_false] at hw
    rcases hw with rfl | rfl | rfl <;> simp [SelectorTest.toTree, number, fields]

/-- The only literal that comes with a test is its own. -/
theorem ComesWith.eq_number {test : SelectorTest} {w : Tree} (h : ComesWith test w) (hlit : w.hasTag Tag.literal) :
    w = .number test.value := by
  rcases h with ⟨block, rfl⟩ | hw
  · cases hlit
  · rw [nodes_toTree] at hw
    simp only [List.mem_cons, List.not_mem_nil, or_false] at hw
    rcases hw with rfl | rfl | rfl
    · cases hlit
    · cases hlit
    · rfl

theorem hasDistinctFields_guarded (ht : t.HasDistinctFields) : (guarded own t).HasDistinctFields := by
  refine forall_mem_nodes_guarded ht ?_ ?_ ?_
  · intro own' u hu
    rw [map_fst_fields_guarded]
    exact ht u hu
  · exact fun test block => ComesWith.nodup_fields (.inl ⟨block, rfl⟩)
  · exact fun test w hw => ComesWith.nodup_fields (.inr hw)

theorem hasPlainLiterals_guarded (ht : t.HasDistinctFields) (h : t.HasPlainLiterals) :
    (guarded own t).HasPlainLiterals := by
  have hnew : ∀ test w, ComesWith test w → w.hasTag Tag.literal → w.children = [] := by
    intro test w hcomes hlit
    rw [hcomes.eq_number hlit]
    exact children_number _
  refine forall_mem_nodes_guarded ht ?_ ?_ ?_
  · intro own' u hu htag
    rw [children_guarded own' (ht u hu), h u hu (by simpa using htag), List.map_nil]
  · exact fun test block => hnew test _ (.inl ⟨block, rfl⟩)
  · exact fun test w hw => hnew test w (.inr hw)

end ElseGuard

namespace RangeTest

open Deflatten.Tree

variable {t : Tree}

/-- The right operand of a node that is lowered is a literal. -/
theorem hasTag_of_lowered? {test : SelectorTest} {c : Step × Tree} (hfs : (t.fields.map Prod.fst).Nodup)
    (hc : c ∈ t.children) (h : lowered? t = some test) (hright : c.1 = ⟨"right", none⟩) : c.2.hasTag Tag.literal := by
  obtain ⟨range, hrange, -⟩ := lowered?_eq_some_iff.mp h
  obtain ⟨-, -, -, hvalue, -⟩ := SelectorTest.ofTree?_eq_some hrange
  have hfield : t.step? ⟨"right", none⟩ = some c.2 := by
    rw [← hright]
    exact step?_of_mem_children hfs hc
  rw [get_of_field? hfield] at hvalue
  exact hasTag_of_number? hvalue

/-- A child of a lowered tree is a child that is lowered, or a new literal in the place of another. -/
theorem lowerChild_eq {c : Step × Tree} (hfs : (t.fields.map Prod.fst).Nodup) (hc : c ∈ t.children) :
    lowerChild (lowered? t) c.1 c.2 = lower c.2 ∨
      c.2.hasTag Tag.literal ∧ ∃ n, lowerChild (lowered? t) c.1 c.2 = .number n := by
  cases h : lowered? t with
  | none => exact .inl rfl
  | some test =>
    rw [lowerChild]
    split
    · rename_i hs
      exact .inr ⟨hasTag_of_lowered? hfs hc h hs, _, rfl⟩
    · exact .inl rfl

theorem headNodes_lower (ht : t.HasDistinctFields) (hl : t.HasPlainLiterals) (isElse : Bool) :
    (lower t).headNodes isElse = (t.headNodes isElse).map lower := by
  induction t using induction_children generalizing isElse with
  | step t ih =>
    rw [headNodes_eq, headNodes_eq isElse t, children_lower ht.self, isConditional_lower, List.map_append,
      List.flatMap_map, List.map_flatMap]
    congr 1
    · split <;> rfl
    · refine List.flatMap_congr fun c hc => ?_
      rcases lowerChild_eq ht.self hc with hsame | ⟨hlit, n, hnew⟩
      · simp only [hsame]
        exact ih c hc (ht.child hc) (hl.child hc) _
      · -- Neither the new literal nor the old one holds a head.
        simp only [hnew]
        rw [headNodes_of_no_children rfl (children_number n),
          headNodes_of_no_children (hasTag_of_ne hlit (by decide)) (hl.child hc c.2 (mem_nodes_self _) hlit)]
        rfl

theorem mem_nodes_lower {w : Tree} (ht : t.HasDistinctFields) (h : w ∈ (lower t).nodes) :
    (∃ u ∈ t.nodes, w = lower u) ∨ ∃ n, w = .number n := by
  induction t using induction_children generalizing w with
  | step t ih =>
    rcases mem_nodes_iff.mp h with rfl | ⟨c', hc', hw⟩
    · exact .inl ⟨t, t.mem_nodes_self, rfl⟩
    · rw [children_lower ht.self] at hc'
      obtain ⟨c, hc, rfl⟩ := List.mem_map.mp hc'
      rcases lowerChild_eq ht.self hc with hsame | ⟨-, n, hnew⟩
      · rw [hsame] at hw
        rcases ih c hc (ht.child hc) hw with ⟨u, hu, rfl⟩ | hnew
        · exact .inl ⟨u, mem_nodes_of_child hc hu, rfl⟩
        · exact .inr hnew
      · rw [hnew, nodes_of_no_children (children_number n), List.mem_singleton] at hw
        exact .inr ⟨n, hw⟩

/-- Every node of a tree that is no literal is there afterwards. -/
theorem lower_mem_nodes {u : Tree} (ht : t.HasDistinctFields) (hl : t.HasPlainLiterals) (hu : u ∈ t.nodes)
    (hlit : u.hasTag Tag.literal = false) : lower u ∈ (lower t).nodes := by
  induction t using induction_children with
  | step t ih =>
    rcases mem_nodes_iff.mp hu with rfl | ⟨c, hc, hu⟩
    · exact mem_nodes_self _
    · have hmem : (c.1, lowerChild (lowered? t) c.1 c.2) ∈ (lower t).children := by
        rw [children_lower ht.self]
        exact List.mem_map_of_mem hc
      refine mem_nodes_of_child hmem ?_
      rcases lowerChild_eq ht.self hc with hsame | ⟨hclit, -⟩
      · rw [hsame]
        exact ih c hc (ht.child hc) (hl.child hc) hu
      · rw [nodes_of_no_children (hl.child hc c.2 (mem_nodes_self _) hclit), List.mem_singleton] at hu
        rw [hu, hclit] at hlit
        cases hlit

end RangeTest

namespace Normalized

open Deflatten.Tree

/-- What both passes make of a head alone. -/
def head (lowerRanges : Bool) (u : Tree) : Tree :=
  let guarded := ElseGuard.guarded (ElseGuard.guardTest? u) u
  if lowerRanges then RangeTest.lower guarded else guarded

theorem tree_ofTree {t : Tree} (ht : t.HasDistinctFields) (lowerRanges : Bool) :
    (ofTree t lowerRanges).tree = head lowerRanges t := by
  rw [ofTree, head, ← ElseGuard.run_fst_eq_guarded ht]
  cases lowerRanges <;> rfl

/-- The heads of a normalized tree are, in document order, what both passes make of each head of the tree alone. -/
theorem heads_ofTree {t : Tree} (ht : t.HasDistinctFields) (hl : t.HasPlainLiterals) (lowerRanges : Bool) :
    (DepthIndex.heads (ofTree t lowerRanges).tree).map Visit.node =
      (DepthIndex.heads t).map fun v => head lowerRanges v.node := by
  have hguarded : (ElseGuard.guarded (ElseGuard.guardTest? t) t).headNodes false =
      (t.headNodes false).map fun u => ElseGuard.guarded (ElseGuard.guardTest? u) u :=
    ElseGuard.headNodes_guarded ht fun _ _ => rfl
  have hmap : (DepthIndex.heads t).map (fun v => head lowerRanges v.node) =
      ((DepthIndex.heads t).map Visit.node).map (head lowerRanges) := by rw [List.map_map]; rfl
  rw [hmap, heads_eq_headNodes, heads_eq_headNodes, tree_ofTree ht, head]
  cases lowerRanges with
  | false => exact hguarded
  | true =>
    rw [if_pos rfl, RangeTest.headNodes_lower (ElseGuard.hasDistinctFields_guarded ht)
      (ElseGuard.hasPlainLiterals_guarded ht hl), hguarded, List.map_map]
    rfl

end Normalized
end Deflatten
