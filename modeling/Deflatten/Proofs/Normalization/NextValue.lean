import Deflatten.Proofs.Normalization.Run
/-!
# The next value

`ElseGuard.guardedName?` says which chains get a test, and of which variable: those that end in a block and whose head
is an equality test. Where the tests along the chain are for integers, the test is for the integer above the greatest of
those that the chain tests this variable for (`ElseGuard.guardTest?_eq`).
-/

namespace Deflatten

/-- The integer that a number is. -/
def Number.int? : Number → Option Int
  | .int n => some n
  | .float _ => none

namespace Scalar

/-- What is equal to anything is equal to itself. -/
theorem same_self_of_same {a b : Scalar} (h : a.same b) : b.same b := by
  have hpoint : ∀ p : Point, p.same p := by
    intro p
    cases p <;> simp [Point.same]
  cases b with
  | number n =>
    show n.same n
    rw [Number.same]
    cases hn : n.point with
    | some p => exact hpoint p
    | none =>
      rw [same] at h
      split at h
      · rename_i hm hn'
        cases hn'
        rw [Number.same, hn] at h
        split at h <;> simp_all
      · rename_i hn'
        cases hn'
      · cases h
  | bool b => exact (same_int _ _).trans (by simp)
  | _ => simp [same, asNumber?]

theorem eq_text_of_same {a : Scalar} {name : String} (h : a.same (.text name)) : a = .text name := by
  cases a with
  | text s => rwa [same_text, beq_iff_eq, ← Scalar.text.injEq] at h
  | null => cases h
  | bool b => cases h
  | number m => cases h

end Scalar

theorem SelectorTest.not_tests_of_name_ne {test : SelectorTest} {name : String} (h : test.name ≠ .text name) :
    test.tests (.text name) = false := by
  rw [← Bool.not_eq_true]
  exact fun htests => h (Scalar.eq_text_of_same (Bool.and_eq_true_iff.mp htests).2)

namespace Tree

/-- Every number that a literal of a tree holds is an integer. -/
def HasIntegerLiterals (t : Tree) : Prop := ∀ u ∈ t.nodes, u.number?.all fun n => n.int?.isSome

instance (t : Tree) : Decidable t.HasIntegerLiterals := inferInstanceAs (Decidable (∀ u ∈ t.nodes, _))

theorem HasIntegerLiterals.of_mem_nodes {t u : Tree} (h : t.HasIntegerLiterals) (hu : u ∈ t.nodes) :
    u.HasIntegerLiterals :=
  fun w hw => h w (nodes_subset hu hw)

theorem HasIntegerLiterals.child {t : Tree} {c : Step × Tree} (h : t.HasIntegerLiterals) (hc : c ∈ t.children) :
    c.2.HasIntegerLiterals :=
  h.of_mem_nodes (mem_nodes_of_child hc c.2.mem_nodes_self)

/-- A recognised test of a tree is for an integer. -/
theorem HasIntegerLiterals.ofTree? {t : Tree} (h : t.HasIntegerLiterals) {test : SelectorTest}
    (htest : SelectorTest.ofTree? t = some test) : ∃ n, test.value = .int n := by
  obtain ⟨htag, -, -, hright, -⟩ := SelectorTest.ofTree?_eq_some htest
  have hint := h _ (get_mem_nodes (isNode_of_hasTag htag) rfl (isNode_of_hasTag (hasTag_of_number? hright)))
  rw [hright, Option.all_some] at hint
  cases hv : test.value with
  | int n => exact ⟨n, rfl⟩
  | float x => rw [hv] at hint; cases hint

theorem HasIntegerLiterals.get {t : Tree} (h : t.HasIntegerLiterals) {name : String} (ht : t.isNode)
    (hn : isNote name = false) (hc : (t.get name).isNode) : (t.get name).HasIntegerLiterals :=
  h.child (get_mem_children ht hn hc)

theorem HasIntegerLiterals.ofConditional? {t : Tree} (h : t.HasIntegerLiterals) (ht : t.isNode) {test : SelectorTest}
    (htest : SelectorTest.ofConditional? t = some test) : ∃ n, test.value = .int n := by
  rw [SelectorTest.ofConditional?] at htest
  exact (h.get ht rfl (isNode_of_hasTag (SelectorTest.ofTree?_eq_some htest).1)).ofTree? htest

/-- The recognised tests along a chain are for integers. -/
def HasIntegerTests (t : Tree) : Prop := ∀ test ∈ t.chainTests, ∃ n, test.value = .int n

theorem HasIntegerLiterals.hasIntegerTests {t : Tree} (h : t.HasIntegerLiterals) : t.HasIntegerTests := by
  induction t using chain_induction with
  | stop t ht =>
    intro test htest
    rw [chainTests_of_not_isConditional ht] at htest
    cases htest
  | member t ht ih =>
    intro test htest
    have hnode := isNode_of_isConditional ht
    rw [chainTests_eq ht] at htest
    rcases List.mem_append.mp htest with hown | hrest
    · exact h.ofConditional? hnode (Option.mem_toList.mp hown)
    · cases hnext : (t.get "alternate").isConditional with
      | true => exact ih (h.get hnode rfl (isNode_of_isConditional hnext)) test hrest
      | false =>
        rw [chainTests_of_not_isConditional hnext] at hrest
        cases hrest

theorem mem_chainTests_of_head {t : Tree} (ht : t.isConditional) {test : SelectorTest}
    (htest : SelectorTest.ofConditional? t = some test) : test ∈ t.chainTests := by
  rw [chainTests_eq ht, htest]
  exact List.mem_cons_self

end Tree

namespace ElseGuard

open Deflatten.Tree

variable {t : Tree}

/-- The integers for which a chain tests a variable by equality, in chain order. -/
def equalityValues (head : Tree) (name : Scalar) : List Int :=
  head.chainTests.filterMap fun t => if t.tests name then t.value.int? else none

/-- The integer above the greatest of those for which a chain tests a variable by equality. -/
def nextValue (head : Tree) (name : Scalar) : Int := (equalityValues head name).max?.getD 0 + 1

/-- The variable for which a chain gets a test: that of its head, if the chain ends in a block and the head tests it by
equality. -/
def guardedName? (head : Tree) : Option Scalar :=
  if head.isConditional && head.finalElse.isBlock then
    (SelectorTest.ofConditional? head).bind fun test => if test.tests test.name then some test.name else none
  else none

theorem greater_int (a b : Int) : greater (.int a) (.int b) = .int (max a b) := by
  rw [greater, Number.less_int]
  by_cases h : a < b
  · have hmax : max a b = b := by omega
    simp [h, hmax]
  · have hmax : max a b = a := by omega
    simp [h, hmax]

theorem foldl_greater (ns : List Int) (n : Int) :
    (ns.map Number.int).foldl greater (.int n) = .int (ns.foldl max n) := by
  induction ns generalizing n with
  | nil => rfl
  | cons m ns ih => rw [List.map_cons, List.foldl_cons, List.foldl_cons, greater_int, ih]

/-- The values that a chain of integer tests uses are integers. -/
theorem usedValues_eq (h : t.HasIntegerTests) (name : Scalar) :
    usedValues t name = (equalityValues t name).map .int := by
  rw [usedValues, equalityValues, ← chainTests, List.map_filterMap]
  refine List.filterMap_congr fun test htest => ?_
  obtain ⟨n, hn⟩ := h test htest
  rw [hn]
  split <;> rfl

/-- A chain whose head is an equality test tests the variable of the head at all if that is itself. -/
theorem usedValues_ne_nil_iff (ht : t.isConditional) {test : SelectorTest}
    (htest : SelectorTest.ofConditional? t = some test) (heq : test.isEquality) :
    usedValues t test.name ≠ [] ↔ test.tests test.name := by
  rw [usedValues, ← chainTests]
  constructor
  · intro hused
    obtain ⟨value, hvalue⟩ := List.exists_mem_of_ne_nil _ hused
    obtain ⟨member, -, hmember⟩ := List.mem_filterMap.mp hvalue
    split at hmember
    · rename_i htests
      rw [SelectorTest.tests, Bool.and_eq_true] at htests
      rw [SelectorTest.tests, heq, Bool.true_and]
      exact Scalar.same_self_of_same htests.2
    · cases hmember
  · intro hself
    -- The head itself is one of the tests of its variable.
    have hmem : test.value ∈ t.chainTests.filterMap fun member =>
        if member.tests test.name then some member.value else none :=
      List.mem_filterMap.mpr ⟨test, mem_chainTests_of_head ht htest, if_pos hself⟩
    exact List.ne_nil_of_mem hmem

/-- The test that a chain gets if it ends in a block. -/
theorem nextSelector_eq (h : t.HasIntegerTests) (ht : t.isConditional) :
    nextSelector t = (SelectorTest.ofConditional? t).bind fun test =>
      if test.tests test.name then some (.equals test.name (.int (nextValue t test.name))) else none := by
  rw [nextSelector]
  cases htest : SelectorTest.ofConditional? t with
  | none => rfl
  | some test =>
    rw [Option.bind_eq_bind, Option.bind_some, Option.bind_some]
    cases heq : test.isEquality with
    | false =>
      have hself : test.tests test.name = false := by rw [SelectorTest.tests, heq, Bool.false_and]
      rw [hself]
      rfl
    | true =>
      have hiff := usedValues_ne_nil_iff ht htest heq
      rw [usedValues_eq h] at hiff ⊢
      cases hvalues : equalityValues t test.name with
      | nil =>
        have hself : test.tests test.name = false := by
          rw [← Bool.not_eq_true, ← hiff, hvalues]
          exact fun hne => hne rfl
        rw [hself]
        rfl
      | cons n ns =>
        have hself : test.tests test.name := hiff.mp (by rw [hvalues]; exact List.cons_ne_nil _ _)
        have hnext : nextValue t test.name = ns.foldl max n + 1 := by rw [nextValue, hvalues]; rfl
        have hsucc : ((ns.map Number.int).foldl greater (.int n)).succ = .int (ns.foldl max n + 1) := by
          rw [foldl_greater, Number.succ_int]
        rw [hself, if_pos rfl, hnext, ← hsucc]
        rfl

theorem guardedName?_eq_some {name : Scalar} (h : guardedName? t = some name) :
    t.isConditional ∧ t.finalElse.isBlock ∧
      ∃ test, SelectorTest.ofConditional? t = some test ∧ test.name = name ∧ test.tests name := by
  rw [guardedName?] at h
  split at h
  · rename_i hblock
    rw [Bool.and_eq_true] at hblock
    obtain ⟨test, htest, hname⟩ := Option.bind_eq_some_iff.mp h
    split at hname
    · rename_i hself
      cases hname
      exact ⟨hblock.1, hblock.2, test, htest, rfl, hself⟩
    · cases hname
  · cases h

/-- A chain gets a test if it ends in a block and its head is an equality test of a variable that is itself, whatever
its numbers are. -/
theorem isSome_guardTest? (t : Tree) : (guardTest? t).isSome = (guardedName? t).isSome := by
  rw [guardTest?, guardedName?]
  cases hcond : t.isConditional with
  | false => rfl
  | true =>
    rw [if_pos rfl, outcome, ← finalElse, Bool.true_and]
    cases t.finalElse.isBlock with
    | false => rfl
    | true =>
      rw [if_pos rfl, if_pos rfl, nextSelector]
      cases htest : SelectorTest.ofConditional? t with
      | none => rfl
      | some test =>
        rw [Option.bind_eq_bind, Option.bind_some, Option.bind_some]
        cases heq : test.isEquality with
        | false =>
          have hself : test.tests test.name = false := by rw [SelectorTest.tests, heq, Bool.false_and]
          rw [hself]
          rfl
        | true =>
          have hiff := usedValues_ne_nil_iff hcond htest heq
          cases hused : usedValues t test.name with
          | nil =>
            have hself : test.tests test.name = false := by
              rw [← Bool.not_eq_true, ← hiff, hused]
              exact fun hne => hne rfl
            rw [hself]
            rfl
          | cons value values =>
            rw [hiff.mp (by rw [hused]; exact List.cons_ne_nil _ _)]
            rfl

/-- A chain gets an equality test of its variable for the next value. -/
theorem guardTest?_eq (h : t.HasIntegerTests) :
    guardTest? t = (guardedName? t).map fun name => .equals name (.int (nextValue t name)) := by
  rw [guardTest?, guardedName?]
  cases hcond : t.isConditional with
  | false => rfl
  | true =>
    rw [if_pos rfl, outcome, ← finalElse, Bool.true_and]
    cases t.finalElse.isBlock with
    | false => rfl
    | true =>
      rw [if_pos rfl, if_pos rfl, nextSelector_eq h hcond]
      cases SelectorTest.ofConditional? t with
      | none => rfl
      | some test =>
        rw [Option.bind_some, Option.bind_some]
        cases test.tests test.name <;> rfl

theorem name_ne_null {test : SelectorTest} (h : SelectorTest.ofTree? t = some test) : test.name ≠ .null := by
  have hname := (SelectorTest.ofTree?_eq_some h).2.2.1
  rw [name?_eq, Option.filter_eq_some_iff] at hname
  simpa using (Bool.and_eq_true_iff.mp hname.2).2

/-- The test that a chain gets is read as it was written. -/
theorem ofTree?_guardTest? (h : t.HasIntegerTests) {test : SelectorTest} (hguard : guardTest? t = some test) :
    SelectorTest.ofTree? test.toTree = some test := by
  rw [guardTest?_eq h, Option.map_eq_some_iff] at hguard
  obtain ⟨name, hname, rfl⟩ := hguard
  obtain ⟨-, -, first, hfirst, rfl, -⟩ := guardedName?_eq_some hname
  have hname : first.name ≠ .null := name_ne_null hfirst
  exact SelectorTest.ofTree?_toTree hname (.inl rfl)

/-- Every equality test of a chain is for a value below the next. -/
theorem lt_nextValue {name : Scalar} {n : Int} (h : n ∈ equalityValues t name) : n < nextValue t name := by
  rw [nextValue]
  cases hmax : (equalityValues t name).max? with
  | none => rw [List.max?_eq_none_iff.mp hmax] at h; cases h
  | some m =>
    have hle := (List.max?_eq_some_iff.mp hmax).2 n h
    rw [Option.getD_some]
    omega

end ElseGuard
end Deflatten
