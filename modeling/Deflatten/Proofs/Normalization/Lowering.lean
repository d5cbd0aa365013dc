import Deflatten.Normalization.RangeTest
import Deflatten.Proofs.Tests
/-!
# Trees with lowered range tests

Lowering changes a node that is no range test by its children alone (`RangeTest.lower_eq_mapChildren`). What is
recognised at a node afterwards is its equality test if it was lowered, and else the test it had before
(`RangeTest.ofTree?_lower`). Chains keep their members (`RangeTest.chain_lower`) and branches (`RangeTest.arms_lower`).
-/

namespace Deflatten

/-- What a test becomes when range tests are lowered. -/
def SelectorTest.lowered (test : SelectorTest) : SelectorTest :=
  if test.operator == lessThan && !test.value.pred.isNegative then .equals test.name test.value.pred.integral else test

namespace RangeTest

open Deflatten.Tree

variable {t : Tree}

/-! ## What is lowered -/

theorem lowered?_eq (t : Tree) : lowered? t = (SelectorTest.ofTree? t).bind fun test =>
    if test.operator == SelectorTest.lessThan && !test.value.pred.isNegative then
      some (.equals test.name test.value.pred) else none := by
  rw [lowered?]
  cases SelectorTest.ofTree? t with
  | none => rfl
  | some test =>
    rw [Option.bind_eq_bind, Option.bind_some, Option.bind_some]
    cases test.operator == SelectorTest.lessThan && !test.value.pred.isNegative <;> rfl

theorem lowered?_eq_some_iff {test : SelectorTest} :
    lowered? t = some test ↔ ∃ range, SelectorTest.ofTree? t = some range ∧ range.operator = SelectorTest.lessThan ∧
      range.value.pred.isNegative = false ∧ test = .equals range.name range.value.pred := by
  rw [lowered?_eq, Option.bind_eq_some_iff]
  refine exists_congr fun range => and_congr_right fun _ => ?_
  by_cases h : range.operator = SelectorTest.lessThan ∧ range.value.pred.isNegative = false
  · simp [h, eq_comm]
  · rw [not_and_or] at h
    rcases h with h | h <;> simp [h]

/-- Only a comparison is lowered. -/
theorem lowered?_of_not_binary (h : t.hasTag Tag.binary = false) : lowered? t = none := by
  cases hl : lowered? t with
  | none => rfl
  | some test =>
    obtain ⟨range, hrange, -⟩ := lowered?_eq_some_iff.mp hl
    rw [(SelectorTest.ofTree?_eq_some hrange).1] at h
    cases h

/-! ## Fields -/

@[simp] theorem tag?_lower (t : Tree) : (lower t).tag? = t.tag? := by
  cases t with
  | scalar _ => rfl
  | list _ => rfl
  | record _ => rfl
  | node _ _ => rfl

@[simp] theorem hasTag_lower (t : Tree) (tag : String) : (lower t).hasTag tag = t.hasTag tag := by simp [hasTag]

@[simp] theorem isNode_lower (t : Tree) : (lower t).isNode = t.isNode := by simp [isNode]

@[simp] theorem isConditional_lower (t : Tree) : (lower t).isConditional = t.isConditional := by simp [isConditional]

@[simp] theorem isBlock_lower (t : Tree) : (lower t).isBlock = t.isBlock := by simp [isBlock]

theorem lowerItems_eq_mapItems (name : String) (i : Nat) (ts : List Tree) :
    lowerItems ts = mapItems (fun _ c => lower c) name i ts := by
  induction ts generalizing i with
  | nil => rw [lowerItems, mapItems]
  | cons u us ih => rw [lowerItems, mapItems, ih (i + 1)]

theorem lower_eq_mapSlot (name : String) (value : Tree) : lower value = mapSlot (fun _ c => lower c) name value := by
  cases value with
  | scalar _ => rw [lower, mapSlot] <;> simp
  | record _ => rw [lower, mapSlot] <;> simp
  | node _ _ => rw [mapSlot]
  | list ts => rw [lower, mapSlot, lowerItems_eq_mapItems name 0 ts]

theorem lookup_lowerFields (own : Option SelectorTest) (fs : List (String × Tree)) (name : String) :
    (lowerFields own fs).lookup name = (fs.lookup name).map fun value => fieldValue own name value (lower value) := by
  induction fs with
  | nil => rfl
  | cons f fs ih =>
    obtain ⟨n, value⟩ := f
    rw [lowerFields, List.lookup_cons, List.lookup_cons]
    by_cases h : name = n
    · simp [h]
    · rw [beq_false_of_ne h, ih]

/-- The value of a field of a node afterwards. -/
theorem get_lower (ht : t.isNode) (name : String) :
    (lower t).get name = ((t.field? name).map fun value => fieldValue (lowered? t) name value (lower value)).getD .null := by
  cases t with
  | node tag fs => rw [lower, Tree.get, field?, fields, lookup_lowerFields, field?, fields]
  | _ => contradiction

/-- A node that is not lowered itself is changed by its children. -/
theorem lower_eq_mapChildren (ht : t.isNode) (h : lowered? t = none) : lower t = t.mapChildren fun _ c => lower c := by
  have hfields : ∀ fs, lowerFields none fs = mapFields (fun _ c => lower c) fs := by
    intro fs
    induction fs with
    | nil => rw [lowerFields, mapFields]
    | cons f fs ih =>
      obtain ⟨name, value⟩ := f
      rw [lowerFields, mapFields, ih, fieldValue, ← lower_eq_mapSlot]
  cases t with
  | node tag fs => rw [lower, h, mapChildren, hfields]
  | _ => contradiction

/-- The fields of a node that is not lowered itself are lowered one by one. -/
theorem get_lower_of_none (ht : t.isNode) (h : lowered? t = none) {name : String} (hn : isNote name = false) :
    (lower t).get name = lower (t.get name) := by
  rw [get_lower ht, h, Tree.get]
  cases t.field? name with
  | none => rfl
  | some value => simp [fieldValue, hn]

theorem lowered?_of_isConditional (h : t.isConditional) : lowered? t = none :=
  lowered?_of_not_binary (hasTag_of_ne h (by decide))

/-! ## Names, numbers and tests -/

@[simp] theorem name?_lower (t : Tree) : (lower t).name? = t.name? := by
  cases htag : t.hasTag Tag.name with
  | false => rw [name?_eq, name?_eq, hasTag_lower, htag]; simp
  | true =>
    have hnone := lowered?_of_not_binary (hasTag_of_ne htag (by decide : Tag.name ≠ Tag.binary))
    rw [lower_eq_mapChildren (isNode_of_hasTag htag) hnone]
    exact name?_mapChildren (fun _ c hc => by simpa using hc) t

@[simp] theorem number?_lower (t : Tree) : (lower t).number? = t.number? := by
  cases htag : t.hasTag Tag.literal with
  | false => rw [number?, number?, hasTag_lower, htag]; simp
  | true =>
    have hnone := lowered?_of_not_binary (hasTag_of_ne htag (by decide : Tag.literal ≠ Tag.binary))
    rw [lower_eq_mapChildren (isNode_of_hasTag htag) hnone]
    exact number?_mapChildren (fun _ c hc => by simpa using hc) t

/-- What is recognised at a node is its equality test if it was lowered, and else what was recognised before. -/
theorem ofTree?_lower (t : Tree) :
    SelectorTest.ofTree? (lower t) =
      match lowered? t with
      | some test => some { test with value := test.value.integral }
      | none => SelectorTest.ofTree? t := by
  cases h : lowered? t with
  | none =>
    cases ht : t.isNode with
    | false =>
      rw [SelectorTest.ofTree?_of_not_isNode ht, SelectorTest.ofTree?_of_not_isNode (by rwa [isNode_lower])]
    | true =>
      rw [lower_eq_mapChildren ht h]
      refine SelectorTest.ofTree?_mapChildren (fun _ c hc => by simpa using hc) ?_ ?_
      · intro s c _
        exact name?_lower c
      · intro s c _
        exact number?_lower c
  | some test =>
    obtain ⟨range, hrange, -, -, rfl⟩ := lowered?_eq_some_iff.mp h
    obtain ⟨htag, hop, hname, hvalue, -⟩ := SelectorTest.ofTree?_eq_some hrange
    have hnode := isNode_of_hasTag htag
    -- The three fields are there, since the comparison was recognised.
    have hleft : ((lower t).get "left").name? = some range.name := by
      rw [get_lower hnode, h]
      cases hf : t.field? "left" with
      | none => rw [Tree.get, hf] at hname; cases hname
      | some left =>
        rw [get_of_field? hf] at hname
        have hvalue : fieldValue (some (.equals range.name range.value.pred)) "left" left (lower left) = lower left := rfl
        rw [Option.map_some, Option.getD_some, hvalue, name?_lower, hname]
    have hoperator : (lower t).operator? = some SelectorTest.equality := by
      rw [operator?, get_lower hnode, h]
      cases hf : t.field? "operator" with
      | none => rw [operator?, Tree.get, hf] at hop; cases hop
      | some operator => rfl
    have hright : ((lower t).get "right").number? = some range.value.pred.integral := by
      rw [get_lower hnode, h]
      cases hf : t.field? "right" with
      | none => rw [Tree.get, hf] at hvalue; cases hvalue
      | some right => simp [fieldValue, SelectorTest.equals, number, number?, hasTag, tag?]
    rw [SelectorTest.ofTree?, hasTag_lower, htag, if_pos rfl, hoperator, hleft, hright]
    rfl

/-! ## Children -/

/-- What becomes of a child of a node of which it is known what it is lowered to. -/
def lowerChild (own : Option SelectorTest) (s : Step) (c : Tree) : Tree :=
  match own with
  | some test => if s = ⟨"right", none⟩ then .number test.value else lower c
  | none => lower c

theorem slotChildren_fieldValue {test : SelectorTest} {name : String} {value : Tree} (hn : isNote name = false)
    (hop : name = "operator" → slotChildren name value = []) (hright : name = "right" → value.isNode) :
    slotChildren name (fieldValue (some test) name value (lower value)) =
      (slotChildren name value).map fun c => (c.1, lowerChild (some test) c.1 c.2) := by
  by_cases h₁ : name = "operator"
  · rw [hop h₁, List.map_nil, h₁]
    rfl
  · by_cases h₂ : name = "right"
    · subst h₂
      rw [slotChildren_of_isNode (hright rfl)]
      rfl
    · have hvalue : fieldValue (some test) name value (lower value) = lower value := by
        simp [fieldValue, h₁, h₂, hn]
      rw [hvalue, lower_eq_mapSlot name value, slotChildren_mapSlot fun _ c hc => by simpa using hc]
      refine List.map_congr_left fun c hc => ?_
      have hstep : c.1 ≠ ⟨"right", none⟩ := fun heq => h₂ (by rw [← field_of_mem_slotChildren hc, heq])
      simp [lowerChild, hstep]

theorem fieldChildren_lowerFields {test : SelectorTest} {fs : List (String × Tree)}
    (hop : ∀ value, ("operator", value) ∈ fs → slotChildren "operator" value = [])
    (hright : ∀ value, ("right", value) ∈ fs → value.isNode) :
    fieldChildren (lowerFields (some test) fs) =
      (fieldChildren fs).map fun c => (c.1, lowerChild (some test) c.1 c.2) := by
  induction fs with
  | nil => rfl
  | cons f fs ih =>
    obtain ⟨name, value⟩ := f
    rw [lowerFields, fieldChildren, fieldChildren, List.map_append,
      ih (fun v hv => hop v (List.mem_cons_of_mem _ hv)) fun v hv => hright v (List.mem_cons_of_mem _ hv)]
    congr 1
    cases hn : isNote name with
    | true => rfl
    | false =>
      rw [if_neg Bool.false_ne_true, if_neg Bool.false_ne_true]
      refine slotChildren_fieldValue hn ?_ ?_
      · rintro rfl
        exact hop value List.mem_cons_self
      · rintro rfl
        exact hright value List.mem_cons_self

/-- The children of a lowered tree, one by one. -/
theorem children_lower (hfs : (t.fields.map Prod.fst).Nodup) :
    (lower t).children = t.children.map fun c => (c.1, lowerChild (lowered? t) c.1 c.2) := by
  cases h : lowered? t with
  | none =>
    cases ht : t.isNode with
    | true => rw [lower_eq_mapChildren ht h, children_mapChildren fun _ c hc => by simpa using hc]; rfl
    | false =>
      cases t with
      | scalar _ => rfl
      | list _ => rfl
      | record _ => rfl
      | node _ _ => cases ht
  | some test =>
    obtain ⟨range, hrange, -⟩ := lowered?_eq_some_iff.mp h
    obtain ⟨-, hop, -, hvalue, -⟩ := SelectorTest.ofTree?_eq_some hrange
    cases t with
    | node tag fs =>
      rw [lower, h]
      -- Fields have distinct names, so the operator and the right operand are those that were recognised.
      refine fieldChildren_lowerFields (fun value hv => ?_) fun value hv => ?_
      · have hfield : (Tree.node tag fs).field? "operator" = some value := lookup_of_mem hfs hv
        rw [operator?, get_of_field? hfield] at hop
        cases value with
        | scalar _ => rfl
        | _ => contradiction
      · have hfield : (Tree.node tag fs).field? "right" = some value := lookup_of_mem hfs hv
        rw [get_of_field? hfield] at hvalue
        cases value with
        | node _ _ => rfl
        | _ => contradiction
    | _ => contradiction

/-! ## Chains -/

/-- The members of a chain stay, each lowered. -/
theorem chain_lower (t : Tree) : (lower t).chain = t.chain.map lower := by
  induction t using chain_induction with
  | stop t h => rw [chain_of_not_isConditional h, chain_of_not_isConditional (by rwa [isConditional_lower]), List.map_nil]
  | member t h ih =>
    rw [chain_eq h, chain_eq (by rwa [isConditional_lower]),
      get_lower_of_none (isNode_of_isConditional h) (lowered?_of_isConditional h) rfl, ih, List.map_cons]

theorem ofConditional?_lower (h : t.isConditional) :
    SelectorTest.ofConditional? (lower t) = (SelectorTest.ofConditional? t).map SelectorTest.lowered := by
  rw [SelectorTest.ofConditional?, get_lower_of_none (isNode_of_isConditional h) (lowered?_of_isConditional h) rfl,
    ofTree?_lower, lowered?_eq, ← SelectorTest.ofConditional?]
  cases SelectorTest.ofConditional? t with
  | none => rfl
  | some test =>
    rw [Option.bind_some, Option.map_some, SelectorTest.lowered]
    by_cases hrange : (test.operator == SelectorTest.lessThan && !test.value.pred.isNegative) = true
    · rw [if_pos hrange, if_pos hrange]
      rfl
    · rw [if_neg hrange, if_neg hrange]

/-- Lowering acts on the branches of a chain and on their tests one by one. -/
theorem arms_lower (t : Tree) : (lower t).arms = t.arms.map fun arm => (arm.1.map SelectorTest.lowered, lower arm.2) := by
  rw [arms, chain_lower, arms, List.map_map, List.map_map]
  refine List.map_congr_left fun member hmember => ?_
  have hcond := isConditional_of_mem_chain hmember
  simp only [Function.comp_apply, ofConditional?_lower hcond,
    get_lower_of_none (isNode_of_isConditional hcond) (lowered?_of_isConditional hcond)
      (rfl : isNote "consequent" = false)]

theorem chainTests_lower (t : Tree) : (lower t).chainTests = t.chainTests.map SelectorTest.lowered := by
  rw [chainTests_eq_arms, arms_lower, chainTests_eq_arms, List.filterMap_map, List.map_filterMap]
  rfl

end RangeTest
end Deflatten
