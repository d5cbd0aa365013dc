import Deflatten.Proofs.Tree.Chains
/-!
# Recognised tests

A test is recognised by the type and the scalars of a comparison and its two operands. So a pass that changes only the
children of nodes, and the operands of a comparison in no more than their own children, changes no test
(`SelectorTest.ofTree?_mapChildren`). A test that is written is read back (`SelectorTest.ofTree?_toTree`), and only one for an
integer of too many digits cannot be written (`SelectorTest.ofTree?_toTree?`).
-/

namespace Deflatten

theorem Number.integral_integral (n : Number) : n.integral.integral = n.integral := by
  cases n with
  | int n => rfl
  | float x =>
    rw [integral]
    cases hx : x.toInt? with
    | some n => rfl
    | none => rw [integral, hx]

namespace Tree

/-- The scalar that a tree is. -/
def scalar? : Tree → Option Scalar
  | .scalar s => some s
  | _ => none

variable {f : Step → Tree → Tree}

/-! ## Types -/

theorem isNode_of_hasTag {t : Tree} {tag : String} (h : t.hasTag tag) : t.isNode := by
  cases t with
  | node _ _ => rfl
  | _ => contradiction

theorem hasTag_of_ne {t : Tree} {tag tag' : String} (h : t.hasTag tag) (hne : tag ≠ tag') : t.hasTag tag' = false := by
  simp only [hasTag, beq_iff_eq] at h
  simp [hasTag, h, hne]

/-! ## Fields after a change of the children -/

theorem get_mapChildren {t : Tree} (ht : t.isNode) (f : Step → Tree → Tree) {name : String} (hn : isNote name = false) :
    (t.mapChildren f).get name = mapSlot f name (t.get name) := by
  cases t with
  | node tag fs =>
    rw [get, field?, mapChildren, fields, lookup_mapFields]
    simp only [hn, Bool.false_eq_true, if_false, get, field?, fields]
    cases fs.lookup name <;> rfl
  | _ => contradiction

theorem mapChildren_of_not_isNode {t : Tree} (ht : t.isNode = false) : t.mapChildren f = t := by
  cases t with
  | scalar _ => rfl
  | list _ => rfl
  | record _ => rfl
  | node _ _ => cases ht

/-- What is the same of all that is no node stays in a field if it stays of a node there. -/
theorem apply_mapSlot {β : Type} {F : Tree → β} {b : β} {name : String} {value : Tree}
    (hF : ∀ u : Tree, u.isNode = false → F u = b) (h : value.isNode → F (f ⟨name, none⟩ value) = F value) :
    F (mapSlot f name value) = F value := by
  cases value with
  | scalar _ => rfl
  | record _ => rfl
  | list _ => exact (hF _ rfl).trans (hF _ rfl).symm
  | node _ _ => exact h rfl

theorem scalar?_of_isNode {t : Tree} (ht : t.isNode) : t.scalar? = none := by
  cases t with
  | node _ _ => rfl
  | _ => contradiction

/-- The scalars in the fields stay. -/
theorem scalar?_get_mapChildren (hf : ∀ s c, c.isNode → (f s c).isNode) (t : Tree) {name : String}
    (hn : isNote name = false) : ((t.mapChildren f).get name).scalar? = (t.get name).scalar? := by
  cases ht : t.isNode with
  | false => rw [mapChildren_of_not_isNode ht]
  | true =>
    rw [get_mapChildren ht f hn]
    generalize t.get name = value
    cases value with
    | scalar _ => rfl
    | list _ => rfl
    | record _ => rfl
    | node tag fs => rw [mapSlot_of_isNode rfl, scalar?_of_isNode (hf _ _ rfl), scalar?_of_isNode rfl]

@[simp] theorem hasTag_mapChildren (f : Step → Tree → Tree) (t : Tree) (tag : String) :
    (t.mapChildren f).hasTag tag = t.hasTag tag := by
  simp [hasTag]

/-! ## Names, numbers and operators -/

theorem name?_eq (t : Tree) :
    t.name? = (t.get "name").scalar?.filter fun name => t.hasTag Tag.name && name != .null := by
  rw [name?]
  cases t.get "name" with
  | scalar name => simp only [scalar?, Option.filter_some]
  | _ => rfl

theorem name?_of_not_isNode {t : Tree} (h : t.isNode = false) : t.name? = none := by
  rw [name?_eq, hasTag_of_not_isNode h]
  simp

theorem number?_of_not_isNode {t : Tree} (h : t.isNode = false) : t.number? = none := by
  rw [number?, hasTag_of_not_isNode h, if_neg Bool.false_ne_true]

theorem number?_eq (t : Tree) :
    t.number? = (t.get "value").scalar?.bind fun s =>
      match s with
      | .number n => if t.hasTag Tag.literal then some n.integral else none
      | _ => none := by
  rw [number?]
  cases t.get "value" with
  | scalar s => cases s <;> simp [scalar?]
  | _ => simp [scalar?]

theorem integral_of_number? {t : Tree} {n : Number} (h : t.number? = some n) : n.integral = n := by
  rw [number?_eq] at h
  obtain ⟨s, -, hs⟩ := Option.bind_eq_some_iff.mp h
  cases s with
  | number m =>
    obtain ⟨-, heq⟩ := Option.ite_none_right_eq_some.mp hs
    rw [← Option.some.inj heq, m.integral_integral]
  | _ => cases hs

theorem hasTag_of_number? {t : Tree} {n : Number} (h : t.number? = some n) : t.hasTag Tag.literal := by
  rw [number?] at h
  split at h
  · assumption
  · cases h

theorem operator?_eq (t : Tree) :
    t.operator? = (t.get "operator").scalar?.bind fun s =>
      match s with
      | .text s => some s
      | _ => none := by
  rw [operator?]
  cases t.get "operator" with
  | scalar s => cases s <;> rfl
  | _ => rfl

theorem name?_mapChildren (hf : ∀ s c, c.isNode → (f s c).isNode) (t : Tree) : (t.mapChildren f).name? = t.name? := by
  rw [name?_eq, name?_eq, scalar?_get_mapChildren hf t rfl, hasTag_mapChildren]

theorem number?_mapChildren (hf : ∀ s c, c.isNode → (f s c).isNode) (t : Tree) :
    (t.mapChildren f).number? = t.number? := by
  rw [number?_eq, number?_eq, scalar?_get_mapChildren hf t rfl, hasTag_mapChildren]

theorem operator?_mapChildren (hf : ∀ s c, c.isNode → (f s c).isNode) (t : Tree) :
    (t.mapChildren f).operator? = t.operator? := by
  rw [operator?_eq, operator?_eq, scalar?_get_mapChildren hf t rfl]

end Tree

namespace SelectorTest

open Deflatten.Tree

variable {f : Step → Tree → Tree}

theorem ofTree?_of_not_isNode {t : Tree} (ht : t.isNode = false) : ofTree? t = none := by
  cases t with
  | scalar _ => rfl
  | list _ => rfl
  | record _ => rfl
  | node _ _ => cases ht

/-- The parts of a recognised test. -/
theorem ofTree?_eq_some {t : Tree} {test : SelectorTest} (h : ofTree? t = some test) :
    t.hasTag Tag.binary ∧ t.operator? = some test.operator ∧ (t.get "left").name? = some test.name ∧
      (t.get "right").number? = some test.value ∧ (test.operator = equality ∨ test.operator = lessThan) := by
  rw [ofTree?] at h
  split at h
  · rename_i htag
    split at h
    · rename_i operator name value hop hname hvalue
      split at h
      · rename_i hknown
        cases h
        exact ⟨htag, hop, hname, hvalue, by simpa using hknown⟩
      · cases h
    · cases h
  · cases h

/-- A change of the children that keeps what the operands are keeps the test. -/
theorem ofTree?_mapChildren {t : Tree} (hf : ∀ s c, c.isNode → (f s c).isNode)
    (hname : ∀ s c, (s, c) ∈ t.children → (f s c).name? = c.name?)
    (hnumber : ∀ s c, (s, c) ∈ t.children → (f s c).number? = c.number?) : ofTree? (t.mapChildren f) = ofTree? t := by
  cases ht : t.isNode with
  | false => rw [mapChildren_of_not_isNode ht]
  | true =>
    have hleft : ((t.mapChildren f).get "left").name? = (t.get "left").name? := by
      rw [get_mapChildren ht f rfl]
      exact apply_mapSlot (fun _ => name?_of_not_isNode) fun hc => hname _ _ (get_mem_children ht rfl hc)
    have hright : ((t.mapChildren f).get "right").number? = (t.get "right").number? := by
      rw [get_mapChildren ht f rfl]
      exact apply_mapSlot (fun _ => number?_of_not_isNode) fun hc => hnumber _ _ (get_mem_children ht rfl hc)
    rw [ofTree?, ofTree?, hasTag_mapChildren, operator?_mapChildren hf, hleft, hright]

/-- Writes a test, if its number has few enough digits. -/
def toTree? (test : SelectorTest) : Option Tree :=
  if test.value.isWritable then some test.toTree else none

/-- A test that is written is read back with its number as an integer if it is one. -/
theorem ofTree?_toTree {test : SelectorTest} (hname : test.name ≠ .null)
    (hop : test.operator = equality ∨ test.operator = lessThan) :
    ofTree? test.toTree = some { test with value := test.value.integral } := by
  obtain ⟨name, operator, value⟩ := test
  have hleft : (Tree.node Tag.name [("name", .scalar name)]).name? = some name := by
    simp [name?, hasTag, tag?, hname]
  have hright : (Tree.number value).number? = some value.integral := by
    simp [number?, Tree.number, hasTag, tag?]
  have hops : (operator == equality || operator == lessThan) = true := by
    rcases hop with rfl | rfl <;> simp
  simp [ofTree?, toTree, operator?, Tree.text, text?, hasTag, tag?, hleft, hright, hops]

/-- A test is read back as it is written, if it can be written. -/
theorem ofTree?_toTree? {test : SelectorTest} (hname : test.name ≠ .null)
    (hoperator : test.operator = equality ∨ test.operator = lessThan) (hvalue : test.value.integral = test.value) :
    test.toTree?.bind ofTree? = if test.value.isWritable then some test else none := by
  have hread : ofTree? test.toTree = some test := by rw [ofTree?_toTree hname hoperator, hvalue]
  rw [toTree?]
  split
  · exact hread
  · rfl

end SelectorTest
end Deflatten
