import Deflatten.Proofs.Normalization.NextValue
import Deflatten.Proofs.Tree.Edits
/-!
# The next value is fresh

The value for which a chain gets a test is above every value that the chain tests the variable of its head for, and next
to one of them. It is read off the head and those members that test the same variable by equality, in whatever order they
come: other members may be added or left out (`ElseGuard.nextSelector_fresh`).
-/

namespace Deflatten

namespace Tree

/-- The chain of some members, each of which goes on with the next, and the last with the given end. -/
def chainOf (members : List Tree) (last : Tree) : Tree := members.foldr (fun member rest => member.set "alternate" rest) last

variable {t : Tree}

theorem get_set_of_ne {name other : String} (h : other ≠ name) (value : Tree) :
    (t.set name value).get other = t.get other := by
  cases t with
  | node tag fs =>
    have hlookup : (putField name value fs).lookup other = fs.lookup other := by
      induction fs with
      | nil => simp [putField, List.lookup_cons, beq_false_of_ne h]
      | cons field fs ih =>
        obtain ⟨n, v⟩ := field
        rw [putField]
        by_cases hn : n = name
        · rw [if_pos hn, List.lookup_cons, List.lookup_cons, hn, beq_false_of_ne h]
        · rw [if_neg hn, List.lookup_cons, List.lookup_cons, ih]
    rw [set, get, get, field?, field?, fields, fields, hlookup]
  | _ => rfl

theorem get_set_self (ht : t.isNode) (name : String) (value : Tree) : (t.set name value).get name = value := by
  cases t with
  | node tag fs => rw [set, get, field?, fields, lookup_putField, Option.getD_some]
  | _ => contradiction

@[simp] theorem isConditional_set (t : Tree) (name : String) (value : Tree) :
    (t.set name value).isConditional = t.isConditional := by
  cases t <;> rfl

/-- To give a member another `else` part leaves its test. -/
theorem ofConditional?_set_alternate (t rest : Tree) :
    SelectorTest.ofConditional? (t.set "alternate" rest) = SelectorTest.ofConditional? t := by
  rw [SelectorTest.ofConditional?, SelectorTest.ofConditional?, get_set_of_ne (by decide)]

theorem chainOf_cons (member : Tree) (members : List Tree) (last : Tree) :
    chainOf (member :: members) last = member.set "alternate" (chainOf members last) := rfl

/-- The tests along a chain that is put together are those of its members. -/
theorem chainTests_chainOf {members : List Tree} {last : Tree} (hmembers : ∀ member ∈ members, member.isConditional)
    (hlast : last.isConditional = false) :
    (chainOf members last).chainTests = members.filterMap SelectorTest.ofConditional? := by
  induction members with
  | nil => exact chainTests_of_not_isConditional hlast
  | cons member members ih =>
    have hmember := hmembers member List.mem_cons_self
    rw [chainOf_cons, chainTests_eq (by rwa [isConditional_set]), get_set_self (isNode_of_isConditional hmember),
      ih fun m hm => hmembers m (List.mem_cons_of_mem _ hm), ofConditional?_set_alternate]
    cases htest : SelectorTest.ofConditional? member with
    | none => rw [List.filterMap_cons_none htest]; rfl
    | some test => rw [List.filterMap_cons_some htest]; rfl

end Tree

namespace ElseGuard

open Deflatten.Tree

variable {head : Tree}

/-- Whether a member tests by equality the variable that the head of its chain tests. -/
def concerns (head member : Tree) : Bool :=
  (SelectorTest.ofConditional? head).any fun first => (SelectorTest.ofConditional? member).any (·.tests first.name)

/-! ## Values -/

theorem max?_eq_of_perm {ms ns : List Int} (h : ms.Perm ns) : ms.max? = ns.max? := by
  cases hmax : ns.max? with
  | none =>
    rw [List.max?_eq_none_iff] at hmax ⊢
    exact List.perm_nil.mp (hmax ▸ h)
  | some m =>
    rw [List.max?_eq_some_iff] at hmax ⊢
    exact ⟨h.mem_iff.mpr hmax.1, fun n hn => hmax.2 n (h.mem_iff.mp hn)⟩

/-- What a chain tests a variable for, member by member. -/
theorem mem_equalityValues_iff {name : String} {n : Int} :
    n ∈ equalityValues head (.text name) ↔
      ∃ member ∈ head.chain, SelectorTest.ofConditional? member = some (.equals (.text name) (.int n)) := by
  rw [equalityValues, List.mem_filterMap, chainTests]
  constructor
  · rintro ⟨test, htest, hvalue⟩
    obtain ⟨member, hmember, hread⟩ := List.mem_filterMap.mp htest
    refine ⟨member, hmember, ?_⟩
    split at hvalue
    · rename_i htests
      rw [SelectorTest.tests, Bool.and_eq_true] at htests
      obtain ⟨name', operator, value⟩ := test
      have hoperator : operator = SelectorTest.equality := eq_of_beq htests.1
      have hname : name' = .text name := Scalar.eq_text_of_same htests.2
      cases value with
      | int m =>
        rw [hread, hoperator, hname, Option.some.inj hvalue]
        rfl
      | float x => cases hvalue
    · cases hvalue
  · rintro ⟨member, hmember, hread⟩
    refine ⟨_, List.mem_filterMap.mpr ⟨member, hmember, hread⟩, ?_⟩
    have htests : (SelectorTest.equals (.text name) (.int n)).tests (.text name) := by
      simp [SelectorTest.tests, SelectorTest.equals, SelectorTest.isEquality]
    rw [if_pos htests]
    rfl

/-- The next value is one above a value that the chain tests the variable for, if there is any. -/
theorem exists_nextValue_eq {name : Scalar} (h : equalityValues head name ≠ []) :
    nextValue head name - 1 ∈ equalityValues head name := by
  rw [nextValue]
  cases hmax : (equalityValues head name).max? with
  | none => exact absurd (List.max?_eq_none_iff.mp hmax) h
  | some m =>
    rw [Option.getD_some, Int.add_sub_cancel]
    exact List.max?_mem hmax

/-! ## Chains with the same tests of a variable -/

/-- The value for which a test, if it is recognised, tests a variable by equality. -/
def usedValue? (name : Scalar) (test : Option SelectorTest) : Option Number :=
  test.bind fun test => if test.tests name then some test.value else none

theorem usedValues_eq_filterMap (t : Tree) (name : Scalar) :
    usedValues t name = (t.chain.map SelectorTest.ofConditional?).filterMap (usedValue? name) := by
  rw [usedValues, List.filterMap_filterMap, List.filterMap_map]
  rfl

/-- Members that do not test the variable of the head by equality have no value for it. -/
theorem filterMap_usedValue?_filter {first : SelectorTest} (hfirst : SelectorTest.ofConditional? head = some first)
    (members : List Tree) :
    ((members.filter (concerns head)).map SelectorTest.ofConditional?).filterMap (usedValue? first.name) =
      (members.map SelectorTest.ofConditional?).filterMap (usedValue? first.name) := by
  rw [List.filterMap_map, List.filterMap_filter, List.filterMap_map]
  refine List.filterMap_congr fun member _ => ?_
  rw [concerns, hfirst, Option.any_some, Function.comp_apply, usedValue?]
  cases SelectorTest.ofConditional? member with
  | none => rfl
  | some test =>
    rw [Option.any_some, Option.bind_some]
    cases test.tests first.name <;> rfl

theorem map_int_filterMap_int? {values : List Number} (h : ∀ value ∈ values, ∃ n, value = .int n) :
    (values.filterMap Number.int?).map .int = values := by
  induction values with
  | nil => rfl
  | cons value values ih =>
    obtain ⟨n, rfl⟩ := h value List.mem_cons_self
    rw [List.filterMap_cons_some (show (Number.int n).int? = some n from rfl), List.map_cons,
      ih fun v hv => h v (List.mem_cons_of_mem _ hv)]

/-- The greatest of some integers does not depend on their order. -/
theorem foldl_greater_eq_of_perm {value value' : Number} {values values' : List Number}
    (hperm : (value' :: values').Perm (value :: values)) (hint : ∀ v ∈ value :: values, ∃ n, v = .int n) :
    values'.foldl greater value' = values.foldl greater value := by
  have hint' : ∀ v ∈ value' :: values', ∃ n, v = .int n := fun v hv => hint v (hperm.mem_iff.mp hv)
  obtain ⟨n, rfl⟩ := hint value List.mem_cons_self
  obtain ⟨n', rfl⟩ := hint' value' List.mem_cons_self
  have hmax : (n' :: values'.filterMap Number.int?).max? = (n :: values.filterMap Number.int?).max? :=
    max?_eq_of_perm (hperm.filterMap Number.int?)
  rw [List.max?_cons', List.max?_cons', Option.some.injEq] at hmax
  rw [← map_int_filterMap_int? fun v hv => hint v (List.mem_cons_of_mem _ hv),
    ← map_int_filterMap_int? fun v hv => hint' v (List.mem_cons_of_mem _ hv), foldl_greater, foldl_greater, hmax]

/-- The next value depends on the test of the head and on the values used for its variable, in whatever order. -/
theorem nextSelector_eq_of_perm {other : Tree} (hint : head.HasIntegerTests)
    (htest : SelectorTest.ofConditional? other = SelectorTest.ofConditional? head)
    (hused : ∀ first, SelectorTest.ofConditional? head = some first →
      (usedValues other first.name).Perm (usedValues head first.name)) : nextSelector other = nextSelector head := by
  rw [nextSelector, nextSelector, htest]
  cases hfirst : SelectorTest.ofConditional? head with
  | none => rfl
  | some first =>
    have hperm := hused first hfirst
    have hints : ∀ v ∈ usedValues head first.name, ∃ n, v = .int n := by
      intro v hv
      rw [usedValues_eq hint] at hv
      obtain ⟨n, -, rfl⟩ := List.mem_map.mp hv
      exact ⟨n, rfl⟩
    rw [Option.bind_eq_bind, Option.bind_some, Option.bind_some]
    congr 1
    funext _
    cases hvalues : usedValues head first.name with
    | nil =>
      rw [hvalues, List.perm_nil] at hperm
      rw [hperm]
    | cons value values =>
      cases hvalues' : usedValues other first.name with
      | nil =>
        rw [hvalues', hvalues] at hperm
        exact absurd hperm.symm (List.not_perm_nil_cons value values ·.symm)
      | cons value' values' =>
        rw [hvalues, hvalues'] at hperm
        rw [hvalues] at hints
        simp only [foldl_greater_eq_of_perm hperm hints]

theorem usedValues_chainOf {members : List Tree} {last : Tree} (hmembers : ∀ member ∈ members, member.isConditional)
    (hlast : last.isConditional = false) (name : Scalar) :
    usedValues (chainOf members last) name =
      (members.map SelectorTest.ofConditional?).filterMap (usedValue? name) := by
  rw [usedValues, ← chainTests, chainTests_chainOf hmembers hlast, List.filterMap_filterMap, List.filterMap_map]
  rfl

/-! ## The value of a guard -/

theorem tests_name {first : SelectorTest} (hname : ∃ name, first.name = .text name) (heq : first.isEquality) :
    first.tests first.name := by
  obtain ⟨name, hname⟩ := hname
  rw [SelectorTest.tests, heq, hname, Scalar.same_text, beq_self_eq_true, Bool.and_true]

/-- A chain has a next value if and only if its head tests a variable by equality. -/
theorem isSome_nextSelector_iff (hcond : head.isConditional) (hint : head.HasIntegerTests)
    (hname : ∀ first, SelectorTest.ofConditional? head = some first → ∃ name, first.name = .text name) :
    (nextSelector head).isSome ↔ ∃ first, SelectorTest.ofConditional? head = some first ∧ first.isEquality := by
  rw [nextSelector_eq hint hcond]
  constructor
  · intro h
    cases hfirst : SelectorTest.ofConditional? head with
    | none => rw [hfirst] at h; cases h
    | some first =>
      rw [hfirst, Option.bind_some] at h
      split at h
      · rename_i htests
        exact ⟨first, rfl, (Bool.and_eq_true_iff.mp htests).1⟩
      · cases h
  · rintro ⟨first, hfirst, heq⟩
    rw [hfirst, Option.bind_some, if_pos (tests_name (hname first hfirst) heq)]
    rfl

/-- The next value is above all values that the chain tests the variable for, and one above some of them. -/
theorem nextSelector_above {first : SelectorTest} (hcond : head.isConditional) (hint : head.HasIntegerTests)
    (hfirst : SelectorTest.ofConditional? head = some first) (hname : ∃ name, first.name = .text name)
    (heq : first.isEquality) :
    usedValues head first.name ≠ [] ∧
      ∃ n : Int, nextSelector head = some (.equals first.name (.int n)) ∧
        (∀ member ∈ head.chain, ∀ m,
          SelectorTest.ofConditional? member = some (.equals first.name (.int m)) → m < n) ∧
        ∃ member ∈ head.chain, SelectorTest.ofConditional? member = some (.equals first.name (.int (n - 1))) := by
  have htests := tests_name hname heq
  have hused := (usedValues_ne_nil_iff hcond hfirst heq).mpr htests
  have hvalues : equalityValues head first.name ≠ [] := by
    rw [usedValues_eq hint] at hused
    exact fun hnil => hused (by rw [hnil]; rfl)
  have hnext : nextSelector head = some (.equals first.name (.int (nextValue head first.name))) := by
    rw [nextSelector_eq hint hcond, hfirst, Option.bind_some, if_pos htests]
  refine ⟨hused, nextValue head first.name, hnext, ?_, ?_⟩
  all_goals
    obtain ⟨name, hname⟩ := hname
    rw [hname] at hvalues ⊢
  · intro member hmember m hm
    exact lt_nextValue (mem_equalityValues_iff.mpr ⟨member, hmember, hm⟩)
  · exact mem_equalityValues_iff.mp (exists_nextValue_eq hvalues)

/-- The next value stays if the members after the head are put in another order, and if such are added or left out as do
not test the variable of the head by equality. -/
theorem nextSelector_chainOf (hcond : head.isConditional) (hint : head.HasIntegerTests) {members : List Tree}
    {last : Tree} (hmembers : ∀ member ∈ members, member.isConditional) (hlast : last.isConditional = false)
    (hperm : ((members.filter (concerns head)).map SelectorTest.ofConditional?).Perm
      ((head.chain.tail.filter (concerns head)).map SelectorTest.ofConditional?)) :
    nextSelector (chainOf (head :: members) last) = nextSelector head := by
  have htest : SelectorTest.ofConditional? (chainOf (head :: members) last) = SelectorTest.ofConditional? head :=
    ofConditional?_set_alternate head _
  refine nextSelector_eq_of_perm hint htest fun first hfirst => ?_
  -- The head comes first in both chains.
  have hchain : head.chain = head :: head.chain.tail := by rw [chain_eq hcond, List.tail_cons]
  have hrest := hperm.filterMap (usedValue? first.name)
  rw [filterMap_usedValue?_filter hfirst, filterMap_usedValue?_filter hfirst] at hrest
  rw [usedValues_chainOf (List.forall_mem_cons.mpr ⟨hcond, hmembers⟩) hlast, usedValues_eq_filterMap, hchain,
    List.map_cons, List.map_cons, List.filterMap_cons, List.filterMap_cons]
  cases usedValue? first.name (SelectorTest.ofConditional? head) with
  | none => exact hrest
  | some value => exact hrest.cons value

/-- A chain of integer tests has a next value if and only if its head tests a variable by equality, and then the values
that it uses for the variable are not none. The next value is above all of them and one above some of them. It stays if
the members after the head are put in another order, and if members that do not test this variable by equality are added
or left out. -/
theorem nextSelector_fresh (hcond : head.isConditional) (hint : head.HasIntegerTests)
    (hname : ∀ first, SelectorTest.ofConditional? head = some first → ∃ name, first.name = .text name) :
    ((nextSelector head).isSome ↔ ∃ first, SelectorTest.ofConditional? head = some first ∧ first.isEquality) ∧
      (∀ first, SelectorTest.ofConditional? head = some first → first.isEquality →
        usedValues head first.name ≠ [] ∧
          ∃ n : Int, nextSelector head = some (.equals first.name (.int n)) ∧
            (∀ member ∈ head.chain, ∀ m,
              SelectorTest.ofConditional? member = some (.equals first.name (.int m)) → m < n) ∧
            ∃ member ∈ head.chain, SelectorTest.ofConditional? member = some (.equals first.name (.int (n - 1)))) ∧
      ∀ (members : List Tree) (last : Tree), (∀ member ∈ members, member.isConditional) → last.isConditional = false →
        ((members.filter (concerns head)).map SelectorTest.ofConditional?).Perm
            ((head.chain.tail.filter (concerns head)).map SelectorTest.ofConditional?) →
          nextSelector (chainOf (head :: members) last) = nextSelector head := by
  refine ⟨isSome_nextSelector_iff hcond hint hname, fun first hfirst heq => ?_, fun members last hmembers hlast hperm => ?_⟩
  · exact nextSelector_above hcond hint hfirst (hname first hfirst) heq
  · exact nextSelector_chainOf hcond hint hmembers hlast hperm

/-- The `if` statement with a test, a branch without statements and no `else`. -/
def emptyArm (test : SelectorTest) : Tree := .ifThen test.toTree (blockOf []) .null

/-- The chain `if (s === 4) {} else if (s === 7) {} else if (t === 9) {} else if (s < 20) {} else if (s === 7) {}`. -/
def repeatedValues : Tree :=
  chainOf [emptyArm (.equals (.text "s") (.int 4)), emptyArm (.equals (.text "s") (.int 7)),
    emptyArm (.equals (.text "t") (.int 9)), emptyArm ⟨.text "s", SelectorTest.lessThan, .int 20⟩,
    emptyArm (.equals (.text "s") (.int 7))] .null

/-- The next value stays 8 if only the members that test `s` for 7 are kept, and another variable is tested between them. -/
theorem nextSelector_repeatedValues :
    repeatedValues.isConditional ∧ repeatedValues.HasIntegerTests ∧
      (∀ first, SelectorTest.ofConditional? repeatedValues = some first → ∃ name, first.name = .text name) ∧
      nextSelector repeatedValues = some (.equals (.text "s") (.int 8)) ∧
      nextSelector (chainOf [repeatedValues, emptyArm (.equals (.text "s") (.int 7)),
        emptyArm (.equals (.text "u") (.int 90)), emptyArm (.equals (.text "s") (.int 7))] (blockOf [])) =
          some (.equals (.text "s") (.int 8)) := by
  have hint : repeatedValues.HasIntegerTests :=
    HasIntegerLiterals.hasIntegerTests (show repeatedValues.HasIntegerLiterals by decide +kernel)
  have hfirst : SelectorTest.ofConditional? repeatedValues = some (.equals (.text "s") (.int 4)) := by decide +kernel
  have hname : ∀ first, SelectorTest.ofConditional? repeatedValues = some first → ∃ name, first.name = .text name := by
    intro first h
    rw [hfirst] at h
    exact ⟨"s", by rw [← Option.some.inj h]; rfl⟩
  obtain ⟨-, -, hsame⟩ := nextSelector_fresh rfl hint hname
  have hnext : nextSelector repeatedValues = some (.equals (.text "s") (.int 8)) := by decide +kernel
  refine ⟨rfl, hint, hname, hnext, ?_⟩
  rw [← hnext]
  exact hsame _ _ (by decide) rfl (by decide +kernel)

end ElseGuard
end Deflatten
