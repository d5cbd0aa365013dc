import Deflatten.Proofs.Normalization.Correspondence
import Deflatten.Script.Printer.Statement
/-!
# Dangling elses

An `else` after an open branch would belong to an `if` inside the branch. A pass that takes the plain `else` away from
the end of an inner chain opens the branches that end in it: those that `ElseGuard.endsInGuard` finds, and no others
(`ElseGuard.isOpen_guarded`). So a tree without open branches before an `else` stays one if and only if no such branch
ends in a chain that is guarded (`Normalized.hasNoDanglingElse_ofTree_iff`). Where one does, it is the printer that
keeps the `else` in its place, by a block around the branch.
-/

namespace Deflatten

open Script.Printer (endsInBody isOpen)

namespace Tree

variable {t : Tree}

/-! ## Open statements -/

theorem isOpen_of_isConditional (h : t.isConditional) :
    isOpen t = ((t.get "alternate").isAbsent || isOpen (t.get "alternate")) := by
  rw [isOpen, if_pos h]
  cases hf : t.field? "alternate" with
  | none => rw [get_of_field?_eq_none hf]; rfl
  | some alternate => rw [get_of_field? hf]

theorem isOpen_of_not_isNode (h : t.isNode = false) : isOpen t = false := by
  have htag : t.tag? = none := by
    rw [isNode, Option.isSome_eq_false_iff, Option.isNone_iff_eq_none] at h
    exact h
  rw [isOpen, not_isConditional_of_not_isNode h, if_neg Bool.false_ne_true, htag]
  simp [endsInBody]

theorem isOpen_of_endsInBody (h : t.isConditional = false) (hbody : endsInBody (t.tag?.getD "")) :
    isOpen t = isOpen (t.get "body") := by
  rw [isOpen, h, if_neg Bool.false_ne_true, if_pos hbody]
  cases hf : t.field? "body" with
  | none => rw [get_of_field?_eq_none hf, isOpen_of_not_isNode rfl]
  | some body => rw [get_of_field? hf]

theorem isOpen_of_not_endsInBody (h : t.isConditional = false) (hbody : endsInBody (t.tag?.getD "") = false) :
    isOpen t = false := by
  rw [isOpen, h, if_neg Bool.false_ne_true, hbody, if_neg Bool.false_ne_true]

/-- No branch that an `else` follows is open. -/
def HasNoDanglingElse (t : Tree) : Prop :=
  ∀ u ∈ t.nodes, u.isConditional → (u.get "alternate").isSet → isOpen (u.get "consequent") = false

instance (t : Tree) : Decidable t.HasNoDanglingElse :=
  inferInstanceAs (Decidable (∀ u ∈ t.nodes, u.isConditional → (u.get "alternate").isSet → _))

/-! ## What changes of children keep -/

theorem isAbsent_of_isNode (h : t.isNode) : t.isAbsent = false := by
  cases t with
  | node _ _ => rfl
  | _ => contradiction

theorem isAbsent_mapSlot {f : Step → Tree → Tree} (hf : ∀ s c, c.isNode → (f s c).isNode) (name : String)
    (value : Tree) : (mapSlot f name value).isAbsent = value.isAbsent := by
  match value with
  | .scalar _ => rfl
  | .record _ => rfl
  | .list [] => rfl
  | .list (_ :: _) => rfl
  | .node tag fs => rw [mapSlot_of_isNode rfl, isAbsent_of_isNode (hf _ _ rfl), isAbsent_of_isNode rfl]

end Tree

namespace ElseGuard

open Deflatten.Tree

variable {t : Tree} {own : Option SelectorTest}

/-! ## Statements that end in a guarded block -/

/-- Whether a statement ends in a block that gets a test, along `else` parts and the bodies of loops. It is told whether
the chain to which the statement belongs gets one. -/
def endsInGuard (isGuarded : Bool) (t : Tree) : Bool :=
  if t.isConditional then
    match _h : t.field? "alternate" with
    | none => false
    | some alternate => isGuarded && alternate.isBlock || endsInGuard isGuarded alternate
  else if endsInBody (t.tag?.getD "") then
    match _h : t.field? "body" with
    | none => false
    | some body => endsInGuard (guardTest? body).isSome body
  else false
termination_by sizeOf t
decreasing_by
  all_goals exact Tree.sizeOf_field_lt _h

theorem endsInGuard_of_not_isNode (h : t.isNode = false) (isGuarded : Bool) : endsInGuard isGuarded t = false := by
  have htag : t.tag? = none := by
    rw [isNode, Option.isSome_eq_false_iff, Option.isNone_iff_eq_none] at h
    exact h
  rw [endsInGuard, not_isConditional_of_not_isNode h, if_neg Bool.false_ne_true, htag]
  simp [endsInBody]

theorem endsInGuard_of_isConditional (h : t.isConditional) (isGuarded : Bool) :
    endsInGuard isGuarded t =
      (isGuarded && (t.get "alternate").isBlock || endsInGuard isGuarded (t.get "alternate")) := by
  rw [endsInGuard, if_pos h]
  cases hf : t.field? "alternate" with
  | none =>
    have hnull : isBlock .null = false := rfl
    rw [get_of_field?_eq_none hf, endsInGuard_of_not_isNode rfl, hnull, Bool.and_false, Bool.or_false]
  | some alternate => rw [get_of_field? hf]

theorem endsInGuard_of_endsInBody (h : t.isConditional = false) (hbody : endsInBody (t.tag?.getD ""))
    (isGuarded : Bool) :
    endsInGuard isGuarded t = endsInGuard (guardTest? (t.get "body")).isSome (t.get "body") := by
  rw [endsInGuard, h, if_neg Bool.false_ne_true, if_pos hbody]
  cases hf : t.field? "body" with
  | none => rw [get_of_field?_eq_none hf, endsInGuard_of_not_isNode rfl]
  | some body => rw [get_of_field? hf]

theorem endsInGuard_of_not_endsInBody (h : t.isConditional = false) (hbody : endsInBody (t.tag?.getD "") = false)
    (isGuarded : Bool) : endsInGuard isGuarded t = false := by
  rw [endsInGuard, h, if_neg Bool.false_ne_true, hbody, if_neg Bool.false_ne_true]

theorem isAbsent_alternate_guarded (ht : t.isNode) (hfs : (t.fields.map Prod.fst).Nodup) :
    ((guarded own t).get "alternate").isAbsent = (t.get "alternate").isAbsent := by
  rw [get_guarded own ht hfs rfl, isAbsent_mapSlot isNode_guardedChild]

theorem isOpen_of_isBlock (h : t.isBlock) : isOpen t = false := by
  have htag : t.tag? = some Tag.block := by simpa [isBlock, hasTag] using h
  refine isOpen_of_not_endsInBody (hasTag_of_ne h (by decide)) ?_
  rw [htag]
  rfl

/-- A guarded block has become the branch of an `if` without `else`. -/
theorem isOpen_guardBlock (own : Option SelectorTest) (t : Tree) :
    isOpen (guardBlock own t) = (isOpen t || own.isSome && t.isBlock) := by
  cases own with
  | none => rw [guardBlock_none, Option.isSome_none, Bool.false_and, Bool.or_false]
  | some test =>
    cases hblock : t.isBlock with
    | false => rw [guardBlock_of_not_isBlock hblock, Bool.and_false, Bool.or_false]
    | true =>
      rw [guardBlock, if_pos hblock, isOpen_of_isConditional rfl, isOpen_of_isBlock hblock]
      simp [ifThen, isAbsent, null]

/-- A field that holds no `else` part is open afterwards if it was, or if it ends in a guarded block. The statement
about its value is the assumption, for the induction over trees. -/
theorem isOpen_get_guarded {name : String} (hnode : t.isNode) (hfs : (t.fields.map Prod.fst).Nodup)
    (hn : isNote name = false) (hne : name ≠ "alternate")
    (ih : (t.get name).isNode → ∀ own', isOpen (guarded own' (t.get name)) =
      (isOpen (t.get name) || endsInGuard own'.isSome (t.get name))) :
    isOpen ((guarded own t).get name) =
      (isOpen (t.get name) || endsInGuard (guardTest? (t.get name)).isSome (t.get name)) := by
  cases hc : (t.get name).isNode with
  | true => rw [get_guarded_of_isNode own hnode hfs hn hne hc, ih hc]
  | false =>
    have hnew : ((guarded own t).get name).isNode = false := by rwa [isNode_get_guarded own hnode hn]
    rw [isOpen_of_not_isNode hnew, isOpen_of_not_isNode hc, endsInGuard_of_not_isNode hc]
    rfl

/-- The statements that are open afterwards are those that were, and those that end in a guarded block. -/
theorem isOpen_guarded (ht : t.HasDistinctFields) (own : Option SelectorTest) :
    isOpen (guarded own t) = (isOpen t || endsInGuard own.isSome t) := by
  induction t using induction_children generalizing own with
  | step t ih =>
    cases hnode : t.isNode with
    | false =>
      rw [isOpen_of_not_isNode hnode, isOpen_of_not_isNode (by rwa [isNode_guarded]),
        endsInGuard_of_not_isNode hnode]
      rfl
    | true =>
      cases hcond : t.isConditional with
      | true =>
        rw [isOpen_of_isConditional hcond, isOpen_of_isConditional (by rwa [isConditional_guarded]),
          isAbsent_alternate_guarded hnode ht.self, endsInGuard_of_isConditional hcond]
        cases hc : (t.get "alternate").isNode with
        | false =>
          have hnew : ((guarded own t).get "alternate").isNode = false := by
            rwa [isNode_get_guarded own hnode rfl]
          rw [isOpen_of_not_isNode hnew, isOpen_of_not_isNode hc, endsInGuard_of_not_isNode hc,
            not_isBlock_of_not_isNode hc]
          simp
        | true =>
          -- The `else` part is in the chain of `t`: whether it gets a test is decided by `own`.
          have hmem : (alternateStep, t.get "alternate") ∈ t.children := get_mem_children hnode rfl hc
          rw [alternate_guarded own hcond ht.self hc, isAbsent_of_isNode hc, isOpen_guardBlock, isBlock_guarded,
            ih _ hmem (ht.child hmem)]
          simp only [Bool.false_or, Bool.or_assoc]
          rw [Bool.or_comm (endsInGuard _ _)]
      | false =>
        cases hbody : endsInBody (t.tag?.getD "") with
        | false =>
          rw [isOpen_of_not_endsInBody hcond hbody, endsInGuard_of_not_endsInBody hcond hbody,
            isOpen_of_not_endsInBody (by rwa [isConditional_guarded]) (by rwa [tag?_guarded])]
          rfl
        | true =>
          rw [isOpen_of_endsInBody hcond hbody, endsInGuard_of_endsInBody hcond hbody,
            isOpen_of_endsInBody (by rwa [isConditional_guarded]) (by rwa [tag?_guarded])]
          refine isOpen_get_guarded hnode ht.self rfl (by decide) fun hc own' => ?_
          have hmem := get_mem_children hnode (rfl : isNote "body" = false) hc
          exact ih _ hmem (ht.child hmem) own'

/-- Guarding leaves a tree without dangling elses if and only if no branch before an `else` ends in a guarded block. -/
theorem hasNoDanglingElse_guarded_iff (ht : t.HasDistinctFields) (h : t.HasNoDanglingElse) :
    (guarded own t).HasNoDanglingElse ↔ ∀ u ∈ t.nodes, u.isConditional → (u.get "alternate").isSet →
      endsInGuard (guardTest? (u.get "consequent")).isSome (u.get "consequent") = false := by
  -- Whether a branch is open afterwards and whether an `else` follows it depends on no test that a chain hands on.
  have hbranch : ∀ own', ∀ u ∈ t.nodes, u.isConditional → isOpen ((guarded own' u).get "consequent") =
      (isOpen (u.get "consequent") ||
        endsInGuard (guardTest? (u.get "consequent")).isSome (u.get "consequent")) := by
    intro own' u hu hcond
    have hnode := isNode_of_isConditional hcond
    have hfields := ht.of_mem_nodes hu
    refine isOpen_get_guarded hnode hfields.self rfl (by decide) fun hc own' => ?_
    have hmem := get_mem_children hnode (rfl : isNote "consequent" = false) hc
    exact isOpen_guarded (hfields.child hmem) own'
  have halternate : ∀ own', ∀ u ∈ t.nodes, u.isConditional →
      ((guarded own' u).get "alternate").isSet = (u.get "alternate").isSet := by
    intro own' u hu hcond
    rw [isSet, isSet, isAbsent_alternate_guarded (isNode_of_isConditional hcond) (ht u hu)]
  constructor
  · intro hnew u hu hcond hset
    obtain ⟨own', hmem⟩ : ∃ own', guarded own' u ∈ (guarded own t).nodes := exists_guarded_mem_nodes ht hu
    have hclosed := hnew _ hmem (by rwa [isConditional_guarded]) (by rwa [halternate own' u hu hcond])
    rw [hbranch own' u hu hcond, Bool.or_eq_false_iff] at hclosed
    exact hclosed.2
  · intro hends
    refine forall_mem_nodes_guarded ht ?_ ?_ ?_
    · intro own' u hu hcond hset
      rw [isConditional_guarded] at hcond
      rw [halternate own' u hu hcond] at hset
      rw [hbranch own' u hu hcond, h u hu hcond hset, hends u hu hcond hset]
      rfl
    · -- A new member has no `else`.
      intro test block _ hset
      simp [ifThen, isSet, isAbsent, null] at hset
    · intro test w hw hcond
      rw [nodes_toTree] at hw
      simp only [List.mem_cons, List.not_mem_nil, or_false] at hw
      rcases hw with rfl | rfl | rfl <;> cases hcond

end ElseGuard

namespace RangeTest

open Deflatten.Tree

variable {t : Tree}

theorem isAbsent_lower (t : Tree) : (lower t).isAbsent = t.isAbsent := by
  rw [lower_eq_mapSlot "" t]
  exact isAbsent_mapSlot (fun _ c hc => by simpa using hc) "" t

/-- Lowering opens and closes nothing. -/
theorem isOpen_lower (t : Tree) : isOpen (lower t) = isOpen t := by
  induction t using induction_children with
  | step t ih =>
    -- Whether a statement is open is decided by statements, and none of them is a range test.
    have hfield : ∀ name, isNote name = false → t.isNode → lowered? t = none →
        isOpen ((lower t).get name) = isOpen (t.get name) := by
      intro name hn hnode hnone
      rw [get_lower_of_none hnode hnone hn]
      cases hc : (t.get name).isNode with
      | true => exact ih _ (get_mem_children hnode hn hc)
      | false => rw [isOpen_of_not_isNode hc, isOpen_of_not_isNode (by rwa [isNode_lower])]
    cases hcond : t.isConditional with
    | true =>
      have hnode := isNode_of_isConditional hcond
      have hnone := lowered?_of_isConditional hcond
      rw [isOpen_of_isConditional hcond, isOpen_of_isConditional (by rwa [isConditional_lower]),
        hfield "alternate" rfl hnode hnone, get_lower_of_none hnode hnone rfl, isAbsent_lower]
    | false =>
      cases hbody : endsInBody (t.tag?.getD "") with
      | false =>
        rw [isOpen_of_not_endsInBody hcond hbody,
          isOpen_of_not_endsInBody (by rwa [isConditional_lower]) (by rwa [tag?_lower])]
      | true =>
        have hnode : t.isNode := by
          rw [isNode]
          cases htag : t.tag? with
          | none => rw [htag] at hbody; cases hbody
          | some tag => rfl
        have hnone : lowered? t = none := by
          refine lowered?_of_not_binary ?_
          by_contra htag
          rw [Bool.not_eq_false, hasTag, beq_iff_eq] at htag
          rw [htag] at hbody
          cases hbody
        rw [isOpen_of_endsInBody hcond hbody, isOpen_of_endsInBody (by rwa [isConditional_lower]) (by rwa [tag?_lower]),
          hfield "body" rfl hnode hnone]

theorem hasNoDanglingElse_lower_iff (ht : t.HasDistinctFields) (hl : t.HasPlainLiterals) :
    (lower t).HasNoDanglingElse ↔ t.HasNoDanglingElse := by
  have hsame : ∀ u : Tree, u.isConditional →
      ((lower u).get "alternate").isSet = (u.get "alternate").isSet ∧
        isOpen ((lower u).get "consequent") = isOpen (u.get "consequent") := by
    intro u hcond
    have hnode := isNode_of_isConditional hcond
    have hnone := lowered?_of_isConditional hcond
    rw [get_lower_of_none hnode hnone rfl, get_lower_of_none hnode hnone rfl, isSet, isSet, isAbsent_lower, isOpen_lower]
    exact ⟨rfl, rfl⟩
  constructor
  · intro h u hu hcond hset
    have hmem := lower_mem_nodes ht hl hu (hasTag_of_ne hcond (by decide))
    rw [← (hsame u hcond).1] at hset
    rw [← (hsame u hcond).2]
    exact h _ hmem (by rwa [isConditional_lower]) hset
  · intro h w hw hcond hset
    rcases mem_nodes_lower ht hw with ⟨u, hu, rfl⟩ | ⟨n, rfl⟩
    · rw [isConditional_lower] at hcond
      rw [(hsame u hcond).1] at hset
      rw [(hsame u hcond).2]
      exact h u hu hcond hset
    · cases hcond

end RangeTest

namespace Normalized

open Deflatten.Tree ElseGuard

/-- Normalization leaves a tree without dangling elses, whether range tests are lowered or not, if and only if no branch
before an `else` ends in the block of a chain that gets a test. -/
theorem hasNoDanglingElse_ofTree_iff {t : Tree} (ht : t.HasDistinctFields) (hl : t.HasPlainLiterals)
    (h : t.HasNoDanglingElse) (lowerRanges : Bool) :
    (ofTree t lowerRanges).tree.HasNoDanglingElse ↔
      ∀ u ∈ t.nodes, u.isConditional → (u.get "alternate").isSet →
        endsInGuard (guardTest? (u.get "consequent")).isSome (u.get "consequent") = false := by
  rw [tree_ofTree ht, head]
  cases lowerRanges with
  | false => exact hasNoDanglingElse_guarded_iff ht h
  | true =>
    rw [if_pos rfl, RangeTest.hasNoDanglingElse_lower_iff (hasDistinctFields_guarded ht)
      (hasPlainLiterals_guarded ht hl)]
    exact hasNoDanglingElse_guarded_iff ht h

/-- The script `if (a === 0) while (p) if (b === 0) { x(); } else { y(); } else { z(); }`. -/
def danglingScript : Tree :=
  scriptOf [.ifThen (SelectorTest.equals (.text "a") (.int 0)).toTree
    (.node "WhileStatement" [("test", .node Tag.name [("name", .text "p")]),
      ("body", .ifThen (SelectorTest.equals (.text "b") (.int 0)).toTree (blockOf [callOf "x"]) (blockOf [callOf "y"]))])
    (blockOf [callOf "z"])]

theorem danglingScript_ends_in_guard :
    danglingScript.HasDistinctFields ∧ danglingScript.HasPlainLiterals ∧ danglingScript.HasNoDanglingElse ∧
      ∃ u ∈ danglingScript.nodes, u.isConditional ∧ (u.get "alternate").isSet ∧
        endsInGuard (guardTest? (u.get "consequent")).isSome (u.get "consequent") := by
  have hfields : danglingScript.HasDistinctFields := by decide +kernel
  have hlit : danglingScript.HasPlainLiterals := by decide +kernel
  have hclosed : danglingScript.HasNoDanglingElse := by decide +kernel
  refine ⟨hfields, hlit, hclosed, ?_⟩
  by_contra hnone
  have hkept := (hasNoDanglingElse_ofTree_iff hfields hlit hclosed true).mpr fun u hu hcond hset => by
    by_contra hends
    exact hnone ⟨u, hu, hcond, hset, by simpa using hends⟩
  exact absurd hkept (by decide +kernel)

/-- No branch of the script is open before an `else`, but one is after either kind of normalization. -/
theorem danglingScript_opens :
    danglingScript.HasNoDanglingElse ∧ ∀ lowerRanges, ¬(ofTree danglingScript lowerRanges).tree.HasNoDanglingElse := by
  decide +kernel

end Normalized
end Deflatten
