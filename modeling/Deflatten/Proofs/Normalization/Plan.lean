import Deflatten.Normalization.ElseGuard
import Deflatten.Proofs.Tree.Children
/-!
# Guarding by a plan

A plan says which chains get a test before their final `else`, by the paths to their heads. `Plan.apply` carries a plan
out by one recursion over the tree, where `ElseGuard.steps` goes from head to head and changes the tree at each. What
the plan says of a head is handed on along the chain, to the block at its end.

The main lemmas here say how a plan acts on one node: it keeps the type and the scalars, and treats the children one by
one (`Plan.children_apply`, `Plan.step?_apply`). `Plan.setStep_apply` is the way back: two plans that agree but at one
child give trees that differ but at that child.
-/

namespace Deflatten.ElseGuard

/-- The tests that final `else` parts get, by the paths to the heads of their chains. -/
abbrev Plan := TreePath → Option SelectorTest

/-- Whether a step from a node goes on along a chain. -/
def continues (t : Tree) (s : Step) : Bool := t.isConditional && s == alternateStep

/-- Puts a test before a block; anything else is left alone. -/
def guardBlock (test : Option SelectorTest) (t : Tree) : Tree :=
  match test with
  | some test => if t.isBlock then .ifThen test.toTree t .null else t
  | none => t

namespace Plan

/-- What a plan says below a step from a node. A member of a chain that is not its head has the test of the chain. -/
def into (plan : Plan) (t : Tree) (s : Step) : Plan
  | [] => if continues t s then plan [] else plan [s]
  | s' :: p => plan (s :: s' :: p)

mutual

/-- Carries out a plan below the fields of a node `t`. -/
def applyFields (plan : Plan) (t : Tree) : List (String × Tree) → List (String × Tree)
  | [] => []
  | (name, value) :: fs =>
    (name, if Tree.isNote name then value else applySlot plan t name value) :: applyFields plan t fs

/-- Carries out a plan in the value of a field of `t`. -/
def applySlot (plan : Plan) (t : Tree) (name : String) : Tree → Tree
  | .node tag fs =>
    let part : Tree := .node tag (applyFields (plan.into t ⟨name, none⟩) (.node tag fs) fs)
    if continues t ⟨name, none⟩ then guardBlock (plan []) part else part
  | .list ts => .list (applyItems plan t name 0 ts)
  | value => value

/-- Carries out a plan in the items of a list in a field of `t`, counted from `i`. -/
def applyItems (plan : Plan) (t : Tree) (name : String) : Nat → List Tree → List Tree
  | _, [] => []
  | i, .node tag fs :: ts =>
    .node tag (applyFields (plan.into t ⟨name, some i⟩) (.node tag fs) fs) :: applyItems plan t name (i + 1) ts
  | i, u :: ts => u :: applyItems plan t name (i + 1) ts

end

/-- Carries out a plan in a tree. -/
def apply (plan : Plan) : Tree → Tree
  | .node tag fs => .node tag (applyFields plan (.node tag fs) fs)
  | t => t

/-- Carries out a plan in a child of `t`. -/
def applyChild (plan : Plan) (t : Tree) (s : Step) (c : Tree) : Tree :=
  if continues t s then guardBlock (plan []) ((plan.into t s).apply c) else (plan.into t s).apply c

end Plan

/-! ## Steps along a chain -/

theorem continues_iff {t : Tree} {s : Step} : continues t s = true ↔ t.isConditional ∧ s = alternateStep := by
  simp [continues]

@[simp] theorem continues_item (t : Tree) (name : String) (i : Nat) : continues t ⟨name, some i⟩ = false := by
  simp [continues, alternateStep]

@[simp] theorem guardBlock_none (t : Tree) : guardBlock none t = t := rfl

theorem guardBlock_of_not_isBlock {t : Tree} (h : t.isBlock = false) (test : Option SelectorTest) :
    guardBlock test t = t := by
  cases test with
  | none => rfl
  | some test => simp [guardBlock, h]

theorem isNode_guardBlock {t : Tree} (h : t.isNode) (test : Option SelectorTest) : (guardBlock test t).isNode := by
  cases test with
  | none => exact h
  | some test =>
    rw [guardBlock]
    split
    · rfl
    · exact h

namespace Plan

variable {plan plan' : Plan} {t : Tree}

theorem into_nil_of_continues {s : Step} (h : continues t s) : plan.into t s [] = plan [] := by
  rw [into, if_pos h]

theorem into_nil_of_not_continues {s : Step} (h : continues t s = false) : plan.into t s [] = plan [s] := by
  rw [into, h, if_neg Bool.false_ne_true]

/-! ## What a plan does to a node -/

/-- A plan changes a node by its children. -/
theorem apply_eq (plan : Plan) (t : Tree) : plan.apply t = t.mapChildren (plan.applyChild t) := by
  have hitems : ∀ name i ts, plan.applyItems t name i ts = Tree.mapItems (plan.applyChild t) name i ts := by
    intro name i ts
    induction ts generalizing i with
    | nil => rfl
    | cons u us ih =>
      cases u with
      | node tag fs => simp [applyItems, Tree.mapItems, ih, Tree.isNode, Tree.tag?, applyChild, apply]
      | _ => simp [applyItems, Tree.mapItems, ih, Tree.isNode, Tree.tag?]
  have hslot : ∀ name value, plan.applySlot t name value = Tree.mapSlot (plan.applyChild t) name value := by
    intro name value
    cases value with
    | list ts => rw [applySlot, Tree.mapSlot, hitems]
    | _ => rfl
  have hfields : ∀ fs, plan.applyFields t fs = Tree.mapFields (plan.applyChild t) fs := by
    intro fs
    induction fs with
    | nil => rfl
    | cons f fs ih => rw [applyFields, Tree.mapFields, ih, hslot]
  cases t with
  | node tag fs => rw [apply, Tree.mapChildren, hfields]
  | _ => rfl

@[simp] theorem tag?_apply (plan : Plan) (t : Tree) : (plan.apply t).tag? = t.tag? := by
  rw [apply_eq, Tree.tag?_mapChildren]

@[simp] theorem hasTag_apply (plan : Plan) (t : Tree) (tag : String) : (plan.apply t).hasTag tag = t.hasTag tag := by
  simp [Tree.hasTag]

@[simp] theorem isNode_apply (plan : Plan) (t : Tree) : (plan.apply t).isNode = t.isNode := by
  simp [Tree.isNode]

@[simp] theorem isConditional_apply (plan : Plan) (t : Tree) : (plan.apply t).isConditional = t.isConditional := by
  simp [Tree.isConditional]

@[simp] theorem isBlock_apply (plan : Plan) (t : Tree) : (plan.apply t).isBlock = t.isBlock := by
  simp [Tree.isBlock]

theorem isNode_applyChild (s : Step) (c : Tree) (h : c.isNode) : (plan.applyChild t s c).isNode := by
  rw [applyChild]
  split
  · exact isNode_guardBlock (by simpa using h) _
  · simpa using h

theorem applyChild_of_not_continues {s : Step} (h : continues t s = false) (c : Tree) :
    plan.applyChild t s c = (plan.into t s).apply c := by
  rw [applyChild, h, if_neg Bool.false_ne_true]

theorem applyChild_of_continues {s : Step} (h : continues t s) (c : Tree) :
    plan.applyChild t s c = guardBlock (plan []) ((plan.into t s).apply c) := by
  rw [applyChild, if_pos h]

/-- The children of a node are treated one by one. -/
theorem children_apply (plan : Plan) (t : Tree) :
    (plan.apply t).children = t.children.map fun c => (c.1, plan.applyChild t c.1 c.2) := by
  rw [apply_eq, Tree.children_mapChildren isNode_applyChild]

/-- At the step to a child stands what the plan makes of the child. -/
theorem step?_apply {s : Step} {c : Tree} (hfs : (t.fields.map Prod.fst).Nodup) (hc : (s, c) ∈ t.children) :
    (plan.apply t).step? s = some (plan.applyChild t s c) := by
  rw [apply_eq, Tree.step?_mapChildren isNode_applyChild hfs hc]

/-! ## Plans that agree -/

/-- Plans that do the same to every child do the same to a node. -/
theorem apply_congr_children (h : ∀ c ∈ t.children, plan.applyChild t c.1 c.2 = plan'.applyChild t c.1 c.2) :
    plan.apply t = plan'.apply t := by
  rw [apply_eq, apply_eq, Tree.mapChildren_congr h]

/-- Plans that agree at the paths to all nodes do the same. -/
theorem apply_congr (h : ∀ p u, t.Leads p u → plan p = plan' p) : plan.apply t = plan'.apply t := by
  induction t using Tree.induction_children generalizing plan plan' with
  | step t ih =>
    refine apply_congr_children fun c hc => ?_
    have hroot : plan [] = plan' [] := h [] t (.here t)
    have hinto : (plan.into t c.1).apply c.2 = (plan'.into t c.1).apply c.2 := by
      refine ih c hc fun p u hp => ?_
      cases p with
      | nil => rw [into, into, hroot, h [c.1] u (.child hc hp)]
      | cons s p => exact h (c.1 :: s :: p) u (.child hc hp)
    rw [applyChild, applyChild, hinto, hroot]

/-- The plan that says nothing changes nothing. -/
@[simp] theorem apply_none (t : Tree) : apply (fun _ => none) t = t := by
  induction t using Tree.induction_children with
  | step t ih =>
    have hinto : ∀ s, into (fun _ => none) t s = fun _ => none := by
      intro s
      funext p
      cases p with
      | nil => rw [into, ite_self]
      | cons _ _ => rfl
    rw [apply_eq]
    refine Tree.mapChildren_eq_self fun c hc => ?_
    rw [applyChild, hinto, ih c hc, guardBlock_none, ite_self]

/-- To carry out one plan and then put into a child's place what another makes of the child is to carry out the other,
if the two agree everywhere else. -/
theorem setStep_apply {s : Step} {c : Tree} (hfs : (t.fields.map Prod.fst).Nodup) (hc : (s, c) ∈ t.children)
    (hne : ∀ s' ≠ s, plan.into t s' = plan'.into t s') :
    (plan.apply t).setStep s (plan'.applyChild t s c) = plan'.apply t := by
  rw [apply_eq, apply_eq plan']
  refine Tree.setStep_mapChildren hfs hc fun s' hs' => ?_
  funext u
  rw [applyChild, applyChild, hne s' hs']
  by_cases h : continues t s'
  · have hroot : plan [] = plan' [] := by
      have hinto : plan.into t s' [] = plan [] := into_nil_of_continues h
      rw [← hinto, hne s' hs', into_nil_of_continues h]
    rw [if_pos h, if_pos h, hroot]
  · rw [if_neg h, if_neg h]

end Plan
end Deflatten.ElseGuard
