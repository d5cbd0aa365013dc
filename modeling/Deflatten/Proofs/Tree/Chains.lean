import Deflatten.Proofs.Tree.Children
import Deflatten.SelectorTest
/-!
# Chains member by member

A chain is its head and the chain that the head's `else` part heads (`Tree.chain_eq`); `Tree.chain_induction` goes along
a chain from its tail. `Tree.finalElse` is the `else` part of the tail, `Tree.arms` lists the branches with their tests and
`Tree.chainTests` the tests that are recognised.
-/

namespace Deflatten

namespace Tree

variable {t : Tree}

theorem isNode_of_isConditional (h : t.isConditional) : t.isNode := by
  cases t with
  | node _ _ => rfl
  | _ => contradiction

theorem not_isBlock_of_isConditional (h : t.isConditional) : t.isBlock = false := by
  cases t with
  | node tag fs =>
    simp only [isConditional, hasTag, tag?, beq_iff_eq, Option.some.injEq] at h
    subst h
    rfl
  | _ => contradiction

theorem hasTag_of_not_isNode (h : t.isNode = false) (tag : String) : t.hasTag tag = false := by
  cases t with
  | scalar _ => rfl
  | list _ => rfl
  | record _ => rfl
  | node _ _ => cases h

theorem not_isConditional_of_not_isNode (h : t.isNode = false) : t.isConditional = false := hasTag_of_not_isNode h _

theorem not_isBlock_of_not_isNode (h : t.isNode = false) : t.isBlock = false := hasTag_of_not_isNode h _

theorem get_of_field? {c : Tree} {name : String} (h : t.field? name = some c) : t.get name = c := by
  rw [get, h, Option.getD_some]

theorem get_of_field?_eq_none {name : String} (h : t.field? name = none) : t.get name = .null := by
  rw [get, h, Option.getD_none]

/-- A field in which a node is found is there. -/
theorem field?_of_isNode_get {name : String} (h : (t.get name).isNode) : t.field? name = some (t.get name) := by
  cases hf : t.field? name with
  | some part => rw [get_of_field? hf]
  | none =>
    rw [get_of_field?_eq_none hf] at h
    cases h

/-- The value of a field that holds a node is smaller than the tree. -/
theorem sizeOf_get_lt {name : String} (h : (t.get name).isNode) : sizeOf (t.get name) < sizeOf t :=
  sizeOf_field_lt (field?_of_isNode_get h)

/-- A node in a field that is no note is a child. -/
theorem get_mem_children {name : String} (ht : t.isNode) (hn : isNote name = false) (h : (t.get name).isNode) :
    (⟨name, none⟩, t.get name) ∈ t.children := by
  cases t with
  | node tag fs =>
    have hmem : (name, get (.node tag fs) name) ∈ fs := mem_of_lookup (field?_of_isNode_get h)
    exact mem_fieldChildren_iff.mpr ⟨_, hmem, hn, mem_slotChildren_iff.mpr ⟨h, .inl ⟨rfl, rfl⟩⟩⟩
  | _ => contradiction

theorem get_mem_nodes {name : String} (ht : t.isNode) (hn : isNote name = false) (h : (t.get name).isNode) :
    t.get name ∈ t.nodes :=
  mem_nodes_of_child (get_mem_children ht hn h) (mem_nodes_self _)

/-! ## Members -/

theorem chain_of_not_isConditional (h : t.isConditional = false) : t.chain = [] := by
  rw [chain, h, if_neg Bool.false_ne_true]

/-- The members of a chain are its head and those of the chain that goes on from there. -/
theorem chain_eq (h : t.isConditional) : t.chain = t :: (t.get "alternate").chain := by
  rw [chain, if_pos h]
  cases hf : t.field? "alternate" with
  | some next => rw [get_of_field? hf]
  | none =>
    have hnull : null.chain = [] := chain_of_not_isConditional rfl
    rw [get_of_field?_eq_none hf, hnull]

/-- What holds where no chain goes on, and at a member if it holds after it, holds of every tree. -/
theorem chain_induction {motive : Tree → Prop} (stop : ∀ t : Tree, t.isConditional = false → motive t)
    (member : ∀ t : Tree, t.isConditional → motive (t.get "alternate") → motive t) (t : Tree) : motive t := by
  generalize hn : sizeOf t = n
  induction n using Nat.strongRecOn generalizing t with
  | ind n ih =>
    cases ht : t.isConditional with
    | false => exact stop t ht
    | true =>
      refine member t ht ?_
      cases hnext : (t.get "alternate").isConditional with
      | false => exact stop _ hnext
      | true => exact ih _ (hn ▸ sizeOf_get_lt (isNode_of_isConditional hnext)) _ rfl

theorem chain_ne_nil (h : t.isConditional) : t.chain ≠ [] := by
  rw [chain_eq h]
  exact List.cons_ne_nil _ _

/-- What has a chain with members is an `if` statement. -/
theorem isConditional_of_getElem?_chain {u : Tree} {k : Nat} (h : t.chain[k]? = some u) : t.isConditional := by
  rw [← Bool.not_eq_false]
  intro hstop
  rw [chain_of_not_isConditional hstop] at h
  cases h

theorem isConditional_of_mem_chain {u : Tree} (h : u ∈ t.chain) : u.isConditional := by
  induction t using chain_induction with
  | stop t ht =>
    rw [chain_of_not_isConditional ht] at h
    cases h
  | member t ht ih =>
    rw [chain_eq ht] at h
    rcases List.mem_cons.mp h with rfl | h
    · exact ht
    · exact ih h

theorem mem_nodes_of_mem_chain {u : Tree} (h : u ∈ t.chain) : u ∈ t.nodes := by
  induction t using chain_induction with
  | stop t ht =>
    rw [chain_of_not_isConditional ht] at h
    cases h
  | member t ht ih =>
    rw [chain_eq ht] at h
    rcases List.mem_cons.mp h with rfl | h
    · exact mem_nodes_self _
    · cases hnext : (t.get "alternate").isConditional with
      | true =>
        exact mem_nodes_of_child (get_mem_children (isNode_of_isConditional ht) rfl (isNode_of_isConditional hnext)) (ih h)
      | false =>
        rw [chain_of_not_isConditional hnext] at h
        cases h

/-- What goes on from a member is the rest of the chain. -/
theorem chain_of_getElem? {k : Nat} {u : Tree} (h : t.chain[k]? = some u) : u.chain = t.chain.drop k := by
  induction t using chain_induction generalizing k with
  | stop t ht =>
    rw [chain_of_not_isConditional ht] at h
    cases h
  | member t ht ih =>
    cases k with
    | zero =>
      rw [chain_eq ht] at h
      rw [List.drop_zero, ← Option.some.inj h]
    | succ k =>
      rw [chain_eq ht] at h ⊢
      exact ih h

/-! ## Paths along a chain -/

theorem chainPath_succ (k : Nat) : chainPath (k + 1) = alternateStep :: chainPath k := rfl

theorem chainPath_snoc (k : Nat) : chainPath k ++ [alternateStep] = chainPath (k + 1) := by
  rw [chainPath, chainPath, List.replicate_succ']

theorem chainPath_append (i j : Nat) : chainPath i ++ chainPath j = chainPath (i + j) := by
  rw [chainPath, chainPath, List.replicate_append_replicate, chainPath]

theorem chainPath_injective {i j : Nat} (h : chainPath i = chainPath j) : i = j := by
  have hlen := congrArg List.length h
  rwa [chainPath, chainPath, List.length_replicate, List.length_replicate] at hlen

/-- A member of a chain is found along the chain. -/
theorem at?_chainPath {u : Tree} {k : Nat} (h : t.chain[k]? = some u) : t.at? (chainPath k) = some u := by
  induction t using chain_induction generalizing k with
  | stop t hstop =>
    rw [chain_of_not_isConditional hstop] at h
    cases h
  | member t hcond ih =>
    rw [chain_eq hcond] at h
    cases k with
    | zero => exact h
    | succ k =>
      have hrest : (t.get "alternate").chain[k]? = some u := h
      have hnext := isConditional_of_getElem?_chain hrest
      have hstep : t.step? alternateStep = some (t.get "alternate") := field?_of_isNode_get (isNode_of_isConditional hnext)
      rw [chainPath_succ, at?, hstep, Option.bind_some]
      exact ih hrest

/-! ## The end of a chain -/

/-- The `else` part with which a chain ends, empty if there is none. -/
def finalElse (t : Tree) : Tree := t.chainTail.get "alternate"

theorem chainTail_mem_chain (h : t.isConditional) : t.chainTail ∈ t.chain := by
  rw [chainTail, List.getLast?_eq_some_getLast (chain_ne_nil h)]
  exact List.getLast_mem _

/-- A chain ends with its tail. -/
theorem getElem?_chain_tail (h : t.isConditional) : t.chain[t.chain.length - 1]? = some t.chainTail := by
  rw [chainTail, ← List.getLast?_eq_getElem?, List.getLast?_eq_some_getLast (chain_ne_nil h)]
  rfl

theorem finalElse_mem_nodes (h : t.isConditional) (hnode : t.finalElse.isNode) : t.finalElse ∈ t.nodes := by
  have htail := chainTail_mem_chain h
  have hown := isNode_of_isConditional (isConditional_of_mem_chain htail)
  exact nodes_subset (mem_nodes_of_mem_chain htail) (get_mem_nodes hown rfl hnode)

theorem chainTail_of_last (h : t.isConditional) (hnext : (t.get "alternate").isConditional = false) :
    t.chainTail = t := by
  rw [chainTail, chain_eq h, chain_of_not_isConditional hnext]
  rfl

theorem chainTail_of_more (h : t.isConditional) (hnext : (t.get "alternate").isConditional) :
    t.chainTail = (t.get "alternate").chainTail := by
  rw [chainTail, chainTail, chain_eq h, chain_eq hnext]
  simp [List.getLast?_cons]

theorem finalElse_of_last (h : t.isConditional) (hnext : (t.get "alternate").isConditional = false) :
    t.finalElse = t.get "alternate" := by
  rw [finalElse, chainTail_of_last h hnext]

theorem finalElse_of_more (h : t.isConditional) (hnext : (t.get "alternate").isConditional) :
    t.finalElse = (t.get "alternate").finalElse := by
  rw [finalElse, finalElse, chainTail_of_more h hnext]

/-- Every member of a chain ends in the same part. -/
theorem finalElse_of_getElem? {k : Nat} {u : Tree} (h : t.chain[k]? = some u) : u.finalElse = t.finalElse := by
  obtain ⟨hlt, -⟩ := List.getElem?_eq_some_iff.mp h
  have hlast : t.chain.getLast? = some (t.chain.getLast (List.ne_nil_of_length_pos (by omega))) :=
    List.getLast?_eq_some_getLast _
  have htail : u.chainTail = t.chainTail := by
    rw [chainTail, chainTail, chain_of_getElem? h, List.getLast?_drop, if_neg (by omega), hlast]
    rfl
  rw [finalElse, finalElse, htail]

theorem finalElse_ifThen (test branch : Tree) : (ifThen test branch .null).finalElse = .null := by
  have hnull : (ifThen test branch .null).get "alternate" = .null := by simp [ifThen]
  rw [finalElse_of_last rfl (by rw [hnull]; rfl), hnull]

/-! ## Tests along a chain -/

/-- The tests of the members of a chain that are recognised, in chain order. -/
def chainTests (t : Tree) : List SelectorTest := t.chain.filterMap SelectorTest.ofConditional?

theorem chainTests_of_not_isConditional (h : t.isConditional = false) : t.chainTests = [] := by
  rw [chainTests, chain_of_not_isConditional h, List.filterMap_nil]

theorem chainTests_eq (h : t.isConditional) :
    t.chainTests = (SelectorTest.ofConditional? t).toList ++ (t.get "alternate").chainTests := by
  rw [chainTests, chain_eq h, chainTests]
  cases ht : SelectorTest.ofConditional? t with
  | none => rw [List.filterMap_cons_none ht]; rfl
  | some test => rw [List.filterMap_cons_some ht]; rfl

/-! ## Branches along a chain -/

/-- The branches of a chain, each with its test if that is recognised, in chain order. -/
def arms (t : Tree) : List (Option SelectorTest × Tree) :=
  t.chain.map fun member => (SelectorTest.ofConditional? member, member.get "consequent")

theorem arms_of_not_isConditional (h : t.isConditional = false) : t.arms = [] := by
  rw [arms, chain_of_not_isConditional h, List.map_nil]

theorem arms_eq (h : t.isConditional) :
    t.arms = (SelectorTest.ofConditional? t, t.get "consequent") :: (t.get "alternate").arms := by
  rw [arms, chain_eq h, List.map_cons, arms]

theorem arm_mem_nodes {arm : Option SelectorTest × Tree} (harm : arm ∈ t.arms) (hnode : arm.2.isNode) :
    arm.2 ∈ t.nodes := by
  obtain ⟨member, hmember, rfl⟩ := List.mem_map.mp harm
  have hown := isNode_of_isConditional (isConditional_of_mem_chain hmember)
  exact nodes_subset (mem_nodes_of_mem_chain hmember) (get_mem_nodes hown rfl hnode)

theorem chainTests_eq_arms (t : Tree) : t.chainTests = t.arms.filterMap Prod.fst := by
  rw [chainTests, arms, List.filterMap_map]
  rfl

/-! ## Trees without chains -/

/-- No node of a tree is an `if` statement. -/
def HasNoConditional (t : Tree) : Prop := ∀ u ∈ t.nodes, u.isConditional = false

instance (t : Tree) : Decidable t.HasNoConditional := inferInstanceAs (Decidable (∀ u ∈ t.nodes, _))

theorem HasNoConditional.self (h : t.HasNoConditional) : t.isConditional = false := h t t.mem_nodes_self

theorem HasNoConditional.child {c : Step × Tree} (h : t.HasNoConditional) (hc : c ∈ t.children) :
    c.2.HasNoConditional :=
  fun u hu => h u (mem_nodes_of_child hc hu)

/-! ## Trees to show cases with -/

/-- The statement that calls a function. -/
def callOf (f : String) : Tree :=
  .node "ExpressionStatement" [("expression",
    .node "CallExpression" [("callee", .node Tag.name [("name", .text f)]), ("arguments", .list [])])]

/-- A block of statements. -/
def blockOf (ts : List Tree) : Tree := .node Tag.block [("body", .list ts)]

/-- The statement `while (g) { … }`. -/
def loopOf (ts : List Tree) : Tree :=
  .node "WhileStatement" [("test", .node Tag.name [("name", .text "g")]), ("body", blockOf ts)]

/-- A script of statements. -/
def scriptOf (ts : List Tree) : Tree := .node "Program" [("body", .list ts), ("sourceType", .text "script")]

end Tree
end Deflatten
