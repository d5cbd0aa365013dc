import Deflatten.Proofs.Normalization.NextValue
import Mathlib.Tactic.FinCases
/-!
# What a guarded tree executes

Statements are built from blocks, `if` statements and leaves. `Tree.exec` lists the leaves that one executes when the
variables have values and every test that is not recognised has a verdict. `Tree.execGuarding` is the same but for one
change: the block at the end of a chain that gets a test is left out unless the chain's variable has the next value.

The pass turns the one into the other (`ElseGuard.exec_guarded`). The proof goes along the statement, with the test of
the chain to which it belongs on one side and its verdict on the other.
-/

namespace Deflatten

/-- What decides tests: the values of the variables, and a verdict on every test that is not recognised. -/
structure Valuation where
  value : Scalar → Int
  verdict : Tree → Bool

namespace Valuation

/-- Whether a recognised test holds. -/
def satisfies (σ : Valuation) (test : SelectorTest) : Bool :=
  if test.isEquality then (Number.int (σ.value test.name)).same test.value
  else (Number.int (σ.value test.name)).less test.value

/-- Whether a test holds. -/
def holds (σ : Valuation) (test : Tree) : Bool :=
  match SelectorTest.ofTree? test with
  | some recognised => σ.satisfies recognised
  | none => σ.verdict test

/-- Whether the block at the end of a chain may be executed: the chain gets no test, or its variable has the next
value. -/
def mayEnd (σ : Valuation) (head : Tree) : Bool :=
  match ElseGuard.guardedName? head with
  | some name => σ.value name == ElseGuard.nextValue head name
  | none => true

/-- The test that a chain gets says when the block at its end may be executed. -/
theorem all_satisfies_guardTest? (σ : Valuation) {head : Tree} (h : head.HasIntegerTests) :
    (ElseGuard.guardTest? head).all σ.satisfies = σ.mayEnd head := by
  rw [ElseGuard.guardTest?_eq h, mayEnd]
  cases ElseGuard.guardedName? head with
  | none => rfl
  | some name =>
    show (Number.int (σ.value name)).same (.int (ElseGuard.nextValue head name)) = _
    rw [Number.same_int]

end Valuation

namespace Tree

/-- Whether a tree is executed item by item. -/
def isSequence (t : Tree) : Bool := t.isBlock || t.hasTag "Program"

/-- Statements built from sequences, `if` statements and leaves. Tests and leaves hold no `if` statement. -/
inductive IsStatement : Tree → Prop
  | leaf {t : Tree} : t.isNode → t.isSequence = false → t.HasNoConditional → IsStatement t
  | sequence {t : Tree} {items : List Tree} : t.isSequence → t.field? "body" = some (.list items) →
      (∀ u ∈ items, IsStatement u) → IsStatement t
  | ifThen {t : Tree} : t.isConditional → (t.get "test").isNode → (t.get "test").HasNoConditional →
      IsStatement (t.get "consequent") → t.get "alternate" = .null → IsStatement t
  | ifThenElse {t : Tree} : t.isConditional → (t.get "test").isNode → (t.get "test").HasNoConditional →
      IsStatement (t.get "consequent") → IsStatement (t.get "alternate") → IsStatement t

theorem sizeOf_item_lt {t u : Tree} {name : String} {items : List Tree} (h : t.field? name = some (.list items))
    (hu : u ∈ items) : sizeOf u < sizeOf t := by
  have hlist := sizeOf_field_lt h
  have hitem := List.sizeOf_lt_of_mem hu
  simp only [Tree.list.sizeOf_spec] at hlist
  omega

/-- The leaves that a statement executes, in order. -/
def exec (σ : Valuation) (t : Tree) : List Tree :=
  if t.isConditional then
    match _h : t.field? (if σ.holds (t.get "test") then "consequent" else "alternate") with
    | some branch => exec σ branch
    | none => []
  else if t.isSequence then
    match _h : t.field? "body" with
    | some (.list items) => items.attach.flatMap fun ⟨u, _⟩ => exec σ u
    | _ => []
  else if t.isNode then [t] else []
termination_by sizeOf t
decreasing_by
  · exact sizeOf_field_lt _h
  · exact sizeOf_item_lt _h (by assumption)

/-- The leaves that a statement executes if the block at the end of a chain that gets a test is left out unless the
chain's variable has the next value. It is told whether the chain to which the statement belongs may end in its block. -/
def execGuarding (σ : Valuation) (ends : Bool) (t : Tree) : List Tree :=
  if t.isConditional then
    if σ.holds (t.get "test") then
      match _h : t.field? "consequent" with
      | some branch => execGuarding σ (σ.mayEnd branch) branch
      | none => []
    else
      match _h : t.field? "alternate" with
      | some rest => if rest.isBlock && !ends then [] else execGuarding σ ends rest
      | none => []
  else if t.isSequence then
    match _h : t.field? "body" with
    | some (.list items) => items.attach.flatMap fun ⟨u, _⟩ => execGuarding σ (σ.mayEnd u) u
    | _ => []
  else if t.isNode then [t] else []
termination_by sizeOf t
decreasing_by
  · exact sizeOf_field_lt _h
  · exact sizeOf_field_lt _h
  · exact sizeOf_item_lt _h (by assumption)

/-- The heads of the chains whose block at the end a statement executes, in order. It is told the head of the chain to
which it belongs. -/
def endsReached (σ : Valuation) (head t : Tree) : List Tree :=
  if t.isConditional then
    if σ.holds (t.get "test") then
      match _h : t.field? "consequent" with
      | some branch => endsReached σ branch branch
      | none => []
    else
      match _h : t.field? "alternate" with
      | some rest => (if rest.isBlock then [head] else []) ++ endsReached σ head rest
      | none => []
  else if t.isSequence then
    match _h : t.field? "body" with
    | some (.list items) => items.attach.flatMap fun ⟨u, _⟩ => endsReached σ u u
    | _ => []
  else []
termination_by sizeOf t
decreasing_by
  · exact sizeOf_field_lt _h
  · exact sizeOf_field_lt _h
  · exact sizeOf_item_lt _h (by assumption)

variable {σ : Valuation} {ends : Bool} {t head : Tree} {items : List Tree}

theorem isNode_of_isSequence (h : t.isSequence) : t.isNode := by
  rw [isSequence, Bool.or_eq_true] at h
  rcases h with h | h <;> exact isNode_of_hasTag h

theorem isNode_of_isStatement (h : t.IsStatement) : t.isNode := by
  cases h with
  | leaf hnode _ _ => exact hnode
  | sequence hseq _ _ => exact isNode_of_isSequence hseq
  | ifThen hcond _ _ _ _ => exact isNode_of_isConditional hcond
  | ifThenElse hcond _ _ _ _ => exact isNode_of_isConditional hcond

/-- A node in a list in a field that is no note is a child. -/
theorem item_mem_children {name : String} {i : Nat} {u : Tree} (ht : t.isNode) (hn : isNote name = false)
    (hitems : t.field? name = some (.list items)) (hi : items[i]? = some u) (hu : u.isNode) :
    (⟨name, some i⟩, u) ∈ t.children := by
  cases t with
  | node tag fs =>
    have hmem : (name, Tree.list items) ∈ fs := mem_of_lookup hitems
    exact mem_fieldChildren_iff.mpr ⟨_, hmem, hn, mem_slotChildren_iff.mpr ⟨hu, .inr ⟨i, hi, rfl⟩⟩⟩
  | _ => contradiction

/-! ## One statement -/

theorem not_isConditional_of_isSequence (h : t.isSequence) : t.isConditional = false := by
  rw [isSequence, Bool.or_eq_true] at h
  rcases h with h | h <;> exact hasTag_of_ne h (by decide)

theorem exec_null : exec σ .null = [] := by
  rw [exec]
  rfl

theorem exec_of_isConditional (h : t.isConditional) :
    exec σ t = exec σ (t.get (if σ.holds (t.get "test") then "consequent" else "alternate")) := by
  rw [exec, if_pos h]
  cases hf : t.field? (if σ.holds (t.get "test") then "consequent" else "alternate") with
  | some branch => rw [get_of_field? hf]
  | none => rw [get_of_field?_eq_none hf, exec_null]

theorem exec_of_isSequence (h : t.isSequence) (hbody : t.field? "body" = some (.list items)) :
    exec σ t = items.flatMap (exec σ) := by
  rw [exec, not_isConditional_of_isSequence h, if_neg Bool.false_ne_true, if_pos h]
  split
  · rename_i items' hbody'
    rw [hbody] at hbody'
    cases hbody'
    rw [List.flatMap_subtype fun _ _ => rfl, List.unattach_attach]
  · rename_i hother
    exact absurd hbody (hother items)

theorem exec_of_leaf (h : t.isNode) (hcond : t.isConditional = false) (hseq : t.isSequence = false) :
    exec σ t = [t] := by
  rw [exec, hcond, if_neg Bool.false_ne_true, hseq, if_neg Bool.false_ne_true, if_pos h]

theorem execGuarding_null : execGuarding σ ends .null = [] := by
  rw [execGuarding]
  rfl

theorem execGuarding_of_isConditional (h : t.isConditional) :
    execGuarding σ ends t =
      if σ.holds (t.get "test") then execGuarding σ (σ.mayEnd (t.get "consequent")) (t.get "consequent")
      else if (t.get "alternate").isBlock && !ends then [] else execGuarding σ ends (t.get "alternate") := by
  rw [execGuarding, if_pos h]
  split
  · cases hf : t.field? "consequent" with
    | some branch => rw [get_of_field? hf]
    | none => rw [get_of_field?_eq_none hf, execGuarding_null]
  · cases hf : t.field? "alternate" with
    | some rest => rw [get_of_field? hf]
    | none =>
      rw [get_of_field?_eq_none hf, execGuarding_null, ite_self]

theorem execGuarding_of_isSequence (h : t.isSequence) (hbody : t.field? "body" = some (.list items)) :
    execGuarding σ ends t = items.flatMap fun u => execGuarding σ (σ.mayEnd u) u := by
  rw [execGuarding, not_isConditional_of_isSequence h, if_neg Bool.false_ne_true, if_pos h]
  split
  · rename_i items' hbody'
    rw [hbody] at hbody'
    cases hbody'
    rw [List.flatMap_subtype fun _ _ => rfl, List.unattach_attach]
  · rename_i hother
    exact absurd hbody (hother items)

theorem execGuarding_of_leaf (h : t.isNode) (hcond : t.isConditional = false) (hseq : t.isSequence = false) :
    execGuarding σ ends t = [t] := by
  rw [execGuarding, hcond, if_neg Bool.false_ne_true, hseq, if_neg Bool.false_ne_true, if_pos h]

theorem endsReached_of_isConditional (h : t.isConditional) :
    endsReached σ head t =
      if σ.holds (t.get "test") then endsReached σ (t.get "consequent") (t.get "consequent")
      else (if (t.get "alternate").isBlock then [head] else []) ++ endsReached σ head (t.get "alternate") := by
  have hnull : ∀ head, endsReached σ head .null = [] := by
    intro head
    rw [endsReached]
    rfl
  rw [endsReached, if_pos h]
  split
  · cases hf : t.field? "consequent" with
    | some branch => rw [get_of_field? hf]
    | none => rw [get_of_field?_eq_none hf, hnull]
  · cases hf : t.field? "alternate" with
    | some rest => rw [get_of_field? hf]
    | none =>
      rw [get_of_field?_eq_none hf, hnull]
      rfl

theorem endsReached_of_isSequence (h : t.isSequence) (hbody : t.field? "body" = some (.list items)) :
    endsReached σ head t = items.flatMap fun u => endsReached σ u u := by
  rw [endsReached, not_isConditional_of_isSequence h, if_neg Bool.false_ne_true, if_pos h]
  split
  · rename_i items' hbody'
    rw [hbody] at hbody'
    cases hbody'
    rw [List.flatMap_subtype fun _ _ => rfl, List.unattach_attach]
  · rename_i hother
    exact absurd hbody (hother items)

/-! ## Where the change makes no difference -/

/-- If every chain that reaches the block at its end may end there, the change leaves out nothing. -/
theorem execGuarding_eq_exec (hs : t.IsStatement)
    (h : ∀ u ∈ endsReached σ head t, σ.mayEnd u) : execGuarding σ (σ.mayEnd head) t = exec σ t := by
  induction hs generalizing head with
  | @leaf t hnode hseq hnone =>
    have hcond := hnone.self
    rw [execGuarding_of_leaf hnode hcond hseq, exec_of_leaf hnode hcond hseq]
  | @sequence t items hseq hbody hitems ih =>
    rw [endsReached_of_isSequence hseq hbody] at h
    rw [execGuarding_of_isSequence hseq hbody, exec_of_isSequence hseq hbody]
    refine List.flatMap_congr fun u hu => ih u hu fun w hw => ?_
    exact h w (List.mem_flatMap.mpr ⟨u, hu, hw⟩)
  | @ifThen t hcond _ _ _ hnull ih =>
    rw [endsReached_of_isConditional hcond, hnull] at h
    rw [execGuarding_of_isConditional hcond, exec_of_isConditional hcond, hnull]
    cases htest : σ.holds (t.get "test") with
    | true =>
      rw [htest, if_pos rfl] at h
      exact ih h
    | false => simp [execGuarding_null, exec_null, hnull]
  | @ifThenElse t hcond _ _ _ _ ihc iha =>
    rw [endsReached_of_isConditional hcond] at h
    rw [execGuarding_of_isConditional hcond, exec_of_isConditional hcond]
    cases htest : σ.holds (t.get "test") with
    | true =>
      rw [htest, if_pos rfl] at h
      exact ihc h
    | false =>
      rw [htest, if_neg Bool.false_ne_true] at h
      have hrest := iha fun u hu => h u (List.mem_append_right _ hu)
      cases hblock : (t.get "alternate").isBlock with
      | false => simpa using hrest
      | true =>
        -- The block is reached, so that the chain that it ends is among those that may end there.
        have hends : σ.mayEnd head := h head (by rw [hblock]; exact List.mem_cons_self)
        simpa [hends] using hrest

end Tree

namespace ElseGuard

open Deflatten.Tree

variable {t : Tree} {own : Option SelectorTest}

theorem isSequence_guarded (own : Option SelectorTest) (t : Tree) : (guarded own t).isSequence = t.isSequence := by
  rw [isSequence, isSequence, isBlock_guarded, hasTag_guarded]

/-- The items of a sequence are treated as heads. -/
theorem body_guarded (hfs : (t.fields.map Prod.fst).Nodup) (ht : t.isNode) {items : List Tree}
    (hbody : t.field? "body" = some (.list items)) (hitems : ∀ u ∈ items, u.isNode) :
    (guarded own t).field? "body" = some (.list (items.map fun u => guarded (guardTest? u) u)) := by
  have hitem : ∀ i u, guardedChild own t ⟨"body", some i⟩ u = guarded (guardTest? u) u := by
    intro i u
    simp [guardedChild, childGuard]
  have hget := get_guarded own ht hfs (rfl : isNote "body" = false)
  rw [get_of_field? hbody, mapSlot, mapItems_eq_map hitem hitems] at hget
  cases hf : (guarded own t).field? "body" with
  | none => rw [Tree.get, hf] at hget; cases hget
  | some body => rw [get_of_field? hf] at hget; rw [hget]

/-- A block with a test before it is executed if the test holds. -/
theorem exec_guardBlock (σ : Valuation) (hown : ∀ test, own = some test → SelectorTest.ofTree? test.toTree = some test)
    (t : Tree) : exec σ (guardBlock own t) = if t.isBlock && !own.all σ.satisfies then [] else exec σ t := by
  cases own with
  | none => simp
  | some test =>
    cases hblock : t.isBlock with
    | false => simp [guardBlock_of_not_isBlock hblock]
    | true =>
      have hholds : σ.holds test.toTree = σ.satisfies test := by rw [Valuation.holds, hown test rfl]
      have htest : (ifThen test.toTree t .null).get "test" = test.toTree := by simp [ifThen]
      rw [guardBlock, if_pos hblock, exec_of_isConditional rfl, htest, hholds]
      cases hsat : σ.satisfies test with
      | true => simp [ifThen, hsat]
      | false => simp [ifThen, hsat, exec_null]

/-- The test of a member and its branch are treated alone, and the test stays. -/
theorem exec_guarded_of_isConditional (σ : Valuation) (ht : t.HasDistinctFields) (hcond : t.isConditional)
    (htest : (t.get "test").isNode) (hnone : (t.get "test").HasNoConditional)
    (hc : (t.get "consequent").isNode) :
    exec σ (guarded own t) =
      if σ.holds (t.get "test") then exec σ (guarded (guardTest? (t.get "consequent")) (t.get "consequent"))
      else exec σ ((guarded own t).get "alternate") := by
  have hnode := isNode_of_isConditional hcond
  have hsame : (guarded own t).get "test" = t.get "test" := by
    rw [get_guarded_of_isNode own hnode ht.self rfl (by decide) htest]
    exact guarded_eq_self (ht.child (get_mem_children hnode (rfl : isNote "test" = false) htest)) hnone
  rw [exec_of_isConditional (by rwa [isConditional_guarded]), hsame,
    ← get_guarded_of_isNode own hnode ht.self rfl (by decide) hc]
  cases σ.holds (t.get "test") <;> rfl

/-- A guarded statement executes what the statement executes with the change. -/
theorem exec_guarded (σ : Valuation) (hs : t.IsStatement) (ht : t.HasDistinctFields) (hint : t.HasIntegerLiterals)
    (hown : ∀ test, own = some test → SelectorTest.ofTree? test.toTree = some test) :
    exec σ (guarded own t) = execGuarding σ (own.all σ.satisfies) t := by
  -- A statement that is treated as a head has the test of the chain that it heads.
  have hhead : ∀ u : Tree, u.HasIntegerLiterals →
      ((∀ test, guardTest? u = some test → SelectorTest.ofTree? test.toTree = some test) →
        exec σ (guarded (guardTest? u) u) = execGuarding σ ((guardTest? u).all σ.satisfies) u) →
      exec σ (guarded (guardTest? u) u) = execGuarding σ (σ.mayEnd u) u := by
    intro u hu ih
    rw [ih fun test => ofTree?_guardTest? hu.hasIntegerTests, σ.all_satisfies_guardTest? hu.hasIntegerTests]
  induction hs generalizing own with
  | @leaf t hnode hseq hnone =>
    have hcond := hnone.self
    rw [guarded_eq_self ht hnone, exec_of_leaf hnode hcond hseq, execGuarding_of_leaf hnode hcond hseq]
  | @sequence t items hseq hbody hitems ih =>
    have hnode := isNode_of_isSequence hseq
    have hchild : ∀ u ∈ items, ∃ s, (s, u) ∈ t.children := by
      intro u hu
      obtain ⟨i, hi⟩ := List.getElem?_of_mem hu
      exact ⟨_, item_mem_children hnode rfl hbody hi (isNode_of_isStatement (hitems u hu))⟩
    rw [exec_of_isSequence (by rwa [isSequence_guarded])
      (body_guarded ht.self hnode hbody fun u hu => isNode_of_isStatement (hitems u hu)),
      execGuarding_of_isSequence hseq hbody, List.flatMap_map]
    refine List.flatMap_congr fun u hu => ?_
    obtain ⟨s, hs⟩ := hchild u hu
    exact hhead u (hint.child hs) (ih u hu (ht.child hs) (hint.child hs))
  | @ifThen t hcond htest hnone hc hnull ih =>
    have hnode := isNode_of_isConditional hcond
    have hcnode := isNode_of_isStatement hc
    have hmem := get_mem_children hnode (rfl : isNote "consequent" = false) hcnode
    have hbranch := hhead _ (hint.child hmem) (ih (ht.child hmem) (hint.child hmem))
    have hrest : (guarded own t).get "alternate" = .null := by
      rw [get_guarded own hnode ht.self rfl, hnull]
      rfl
    rw [exec_guarded_of_isConditional σ ht hcond htest hnone hcnode, execGuarding_of_isConditional hcond, hbranch, hrest,
      hnull, exec_null, execGuarding_null, ite_self]
  | @ifThenElse t hcond htest hnone hc ha ihc iha =>
    have hnode := isNode_of_isConditional hcond
    have hcnode := isNode_of_isStatement hc
    have hmem := get_mem_children hnode (rfl : isNote "consequent" = false) hcnode
    have hbranch := hhead _ (hint.child hmem) (ihc (ht.child hmem) (hint.child hmem))
    have hanode := isNode_of_isStatement ha
    have hamem := get_mem_children hnode (rfl : isNote "alternate" = false) hanode
    have hrest := iha (ht.child hamem) (hint.child hamem) hown
    rw [exec_guarded_of_isConditional σ ht hcond htest hnone hcnode, execGuarding_of_isConditional hcond, hbranch,
      alternate_guarded own hcond ht.self hanode, exec_guardBlock σ hown, isBlock_guarded, hrest]

/-- What the pass makes of a statement executes the same leaves with one change: the block at the end of a chain that
gets a test is executed only when the chain's variable has the next value. If every such block that is reached is reached
with that value, it executes the same leaves. -/
theorem exec_run {t : Tree} (σ : Valuation) (hs : t.IsStatement) (ht : t.HasDistinctFields)
    (hint : t.HasIntegerLiterals) :
    exec σ (run t).1 = execGuarding σ (σ.mayEnd t) t ∧
      ((∀ head ∈ endsReached σ t t, ∀ name, guardedName? head = some name → σ.value name = nextValue head name) →
        exec σ (run t).1 = exec σ t) := by
  have hchange : exec σ (run t).1 = execGuarding σ (σ.mayEnd t) t := by
    rw [run_fst_eq_guarded ht, exec_guarded σ hs ht hint fun _ => ofTree?_guardTest? hint.hasIntegerTests,
      σ.all_satisfies_guardTest? hint.hasIntegerTests]
  refine ⟨hchange, fun hreached => ?_⟩
  rw [hchange]
  refine execGuarding_eq_exec hs fun head hhead => ?_
  rw [Valuation.mayEnd]
  cases hname : guardedName? head with
  | none => rfl
  | some name => simpa using hreached head hhead name hname

/-- The block `{ if (x === 1) { a(); } else if (p) { b(); } else { if (y === 5) c(); else { d(); } } }`. -/
def nestedDispatch : Tree :=
  blockOf [.ifThen (SelectorTest.equals (.text "x") (.int 1)).toTree (blockOf [callOf "a"])
    (.ifThen (.node Tag.name [("name", .text "p")]) (blockOf [callOf "b"])
      (blockOf [.ifThen (SelectorTest.equals (.text "y") (.int 5)).toTree (callOf "c") (blockOf [callOf "d"])]))]

/-- Both chains of the block reach their ends with the next value: `x` is 2, `y` is 6, and `p` does not hold. -/
def endsOfNestedDispatch : Valuation := ⟨fun name => if name = .text "x" then 2 else 6, fun _ => false⟩

theorem isStatement_blockOf {ts : List Tree} (h : ∀ u ∈ ts, u.IsStatement) : (blockOf ts).IsStatement :=
  .sequence rfl rfl h

theorem isStatement_nestedDispatch : nestedDispatch.IsStatement := by
  have hleaf : ∀ f ∈ ["a", "b", "c", "d"], (callOf f).IsStatement := by
    intro f hf
    refine .leaf rfl rfl ?_
    fin_cases hf <;> decide +kernel
  have hblock : ∀ f ∈ ["a", "b", "c", "d"], (blockOf [callOf f]).IsStatement := fun f hf =>
    isStatement_blockOf fun u hu => List.mem_singleton.mp hu ▸ hleaf f hf
  refine isStatement_blockOf fun u hu => ?_
  rw [List.mem_singleton.mp hu]
  refine .ifThenElse rfl rfl (by decide +kernel) (hblock "a" (by decide)) ?_
  refine .ifThenElse rfl rfl (by decide +kernel) (hblock "b" (by decide)) ?_
  refine isStatement_blockOf fun u hu => ?_
  rw [List.mem_singleton.mp hu]
  exact .ifThenElse rfl rfl (by decide +kernel) (hleaf "c" (by decide)) (hblock "d" (by decide))

/-- The block executes the call of `d` before and after the pass. -/
theorem exec_run_nestedDispatch :
    nestedDispatch.HasDistinctFields ∧ nestedDispatch.HasIntegerLiterals ∧ nestedDispatch.IsStatement ∧
      (nestedDispatch.endsReached endsOfNestedDispatch nestedDispatch).length = 2 ∧
        exec endsOfNestedDispatch (run nestedDispatch).1 = exec endsOfNestedDispatch nestedDispatch := by
  have hfields : nestedDispatch.HasDistinctFields := by decide +kernel
  have hint : nestedDispatch.HasIntegerLiterals := by decide +kernel
  have hends : ∀ head ∈ nestedDispatch.endsReached endsOfNestedDispatch nestedDispatch,
      endsOfNestedDispatch.mayEnd head := by decide +kernel
  refine ⟨hfields, hint, isStatement_nestedDispatch, by decide +kernel, ?_⟩
  refine (exec_run endsOfNestedDispatch isStatement_nestedDispatch hfields hint).2 fun head hhead name hname => ?_
  have hend := hends head hhead
  rw [Valuation.mayEnd, hname] at hend
  exact beq_iff_eq.mp hend

end ElseGuard
end Deflatten
