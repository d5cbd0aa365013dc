import Deflatten.Proofs.Dispatch.EntryOrder
import Deflatten.Proofs.Json.Artifacts
import Deflatten.Proofs.Normalization.NaturalLiterals
/-!
# Conditions

A recognised test is read back as it is written, whatever its operands looked like, and a test for an integer can be told from
its text: the name ends at the first space and the digits begin after the last (`SelectorTest.eq_of_describe_eq`). The
condition of a collected block is the text of its test, or that of a plain `else`, which has no space
(`BlockCollector.hasCondition_of_collect`). So blocks with one condition are selected by one value. All this holds as far as
integers have few enough digits to be written (`SelectorTest.readBack_and_told_by_text`).
-/

namespace Deflatten

/-! ## Texts with a separator -/

section Separator

variable {α : Type} {a : α} {l l' r r' : List α}

/-- What stands before the first separator and what stands after it can be told from the whole. -/
theorem eq_of_append_cons_eq (hl : a ∉ l) (hl' : a ∉ l') (h : l ++ a :: r = l' ++ a :: r') : l = l' ∧ r = r' := by
  induction l generalizing l' with
  | nil =>
    cases l' with
    | nil => exact ⟨rfl, (List.cons.inj h).2⟩
    | cons b l' => exact absurd ((List.cons.inj h).1 ▸ List.mem_cons_self) hl'
  | cons b l ih =>
    cases l' with
    | nil => exact absurd ((List.cons.inj h).1 ▸ List.mem_cons_self) hl
    | cons b' l' =>
      obtain ⟨rfl, hrest⟩ := List.cons.inj h
      obtain ⟨rfl, hr⟩ := ih (List.not_mem_of_not_mem_cons hl) (List.not_mem_of_not_mem_cons hl') hrest
      exact ⟨rfl, hr⟩

/-- So can what stands before the last separator and what stands after it. -/
theorem eq_of_append_cons_eq_last (hr : a ∉ r) (hr' : a ∉ r') (h : l ++ a :: r = l' ++ a :: r') : l = l' ∧ r = r' := by
  -- Read backwards, the last separator is the first.
  have hreverse : r.reverse ++ a :: l.reverse = r'.reverse ++ a :: l'.reverse := by
    simpa using congrArg List.reverse h
  obtain ⟨hafter, hbefore⟩ := eq_of_append_cons_eq (by simpa using hr) (by simpa using hr') hreverse
  exact ⟨List.reverse_injective hbefore, List.reverse_injective hafter⟩

end Separator

/-! ## Tests -/

namespace SelectorTest

/-- A test of a variable against an integer. -/
def forInteger (name operator : String) (n : Int) : SelectorTest := ⟨.text name, operator, .int n⟩

/-- A test as it is shown, if its number has few enough digits. -/
def describe? (test : SelectorTest) : Option String := if test.value.isWritable then some test.describe else none

/-- A recognised test is read back as it is written, if it can be written. -/
theorem ofTree?_toTree?_of_recognised {t : Tree} {test : SelectorTest} (h : ofTree? t = some test) :
    test.toTree?.bind ofTree? = if test.value.isWritable then some test else none := by
  obtain ⟨-, -, -, hvalue, hoperator⟩ := ofTree?_eq_some h
  exact ofTree?_toTree? (ElseGuard.name_ne_null h) hoperator (Tree.integral_of_number? hvalue)

/-! ## Texts of tests -/

variable {name name' operator operator' : String} {m n : Int}

theorem toList_describe (test : SelectorTest) : test.describe.toList =
    test.name.shown.toList ++ ' ' :: (test.operator.toList ++ ' ' :: test.value.shortText.toList) := by
  simp [describe, String.toList_append]

theorem space_not_mem_shortText (n : Int) : ' ' ∉ (Number.int n).shortText.toList := by
  have hdigits : ' ' ∉ Nat.toDigits 10 n.natAbs := Decimal.not_mem_toDigits (by decide) _
  have htext : (Number.int n).shortText.toList = _ := Decimal.toList_toString_int n
  rw [htext]
  split
  · exact List.not_mem_cons_of_ne_of_not_mem (by decide) hdigits
  · exact hdigits

/-- A test for an integer is told by its text, if its name has no space. -/
theorem eq_of_describe_eq (hname : ' ' ∉ name.toList) (hname' : ' ' ∉ name'.toList)
    (h : (forInteger name operator m).describe = (forInteger name' operator' n).describe) :
    name = name' ∧ operator = operator' ∧ m = n := by
  have htext := congrArg String.toList h
  rw [toList_describe, toList_describe] at htext
  obtain ⟨hnames, hrest⟩ := eq_of_append_cons_eq hname hname' htext
  obtain ⟨hoperators, hvalues⟩ :=
    eq_of_append_cons_eq_last (space_not_mem_shortText m) (space_not_mem_shortText n) hrest
  exact ⟨String.toList_inj.mp hnames, String.toList_inj.mp hoperators, Decimal.toString_int_injective (String.toList_inj.mp hvalues)⟩

/-- Two tests for integers are shown by one text if they are the same and can be written. -/
theorem describe?_eq_iff (hname : ' ' ∉ name.toList) (hname' : ' ' ∉ name'.toList) :
    (∃ text, (forInteger name operator m).describe? = some text ∧ (forInteger name' operator' n).describe? = some text) ↔
      (name = name' ∧ operator = operator' ∧ m = n) ∧ (Number.int m).isWritable := by
  constructor
  · rintro ⟨text, hm, hn⟩
    obtain ⟨hwritable, hm⟩ := Option.ite_none_right_eq_some.mp hm
    obtain ⟨-, hn⟩ := Option.ite_none_right_eq_some.mp hn
    exact ⟨eq_of_describe_eq hname hname' (Option.some.inj (hm.trans hn.symm)), hwritable⟩
  · rintro ⟨⟨rfl, rfl, rfl⟩, hwritable⟩
    exact ⟨_, if_pos hwritable, if_pos hwritable⟩

end SelectorTest

namespace BlockCollector

open Deflatten.Tree SelectorTest

variable {name : String} {t : Tree} {s s₁ : Progress} {b : LeafBlock}

/-! ## Conditions of blocks -/

/-- A block is shown by the text of a test of the variable and is selected by the value of the test, or it is that of a plain
`else`. -/
def HasCondition (name : String) (b : LeafBlock) : Prop :=
  (b.condition = LeafBlock.elseTag ∧ b.value = .text LeafBlock.elseTag) ∨
    ∃ value, (SelectorTest.equals (.text name) value).describe? = some b.condition ∧ b.value = .number value

/-- Every block that has been collected so far has its condition. -/
def HasConditions (name : String) (s : Progress) : Prop := ∀ b ∈ s.table.blocks, HasCondition name b

/-- A test that is one of the variable is an equality test for a value. -/
theorem eq_equals_of_tests {test : SelectorTest} (h : test.tests (.text name)) : test = .equals (.text name) test.value := by
  obtain ⟨hequality, hname⟩ := Bool.and_eq_true_iff.mp h
  obtain ⟨name', operator, value⟩ := test
  obtain rfl : operator = equality := beq_iff_eq.mp hequality
  obtain rfl : name' = .text name := Scalar.eq_text_of_same hname
  rfl

theorem hasConditions_of_keepOrDrop {condition : String} {value : Scalar} {body : List Tree}
    (h : Reaches (keepOrDrop condition value body) s s₁) (hs : HasConditions name s)
    (hblock : value.isWritable → ∀ code, HasCondition name ⟨condition, value, code⟩) : HasConditions name s₁ := by
  obtain ⟨code, -, ⟨-, rfl⟩ | ⟨-, hwritable, rfl⟩⟩ := keepOrDrop_cases h
  · exact hs
  · intro b hb
    rcases List.mem_append.mp hb with hold | hnew
    · exact hs b hold
    · rw [List.mem_singleton.mp hnew]
      exact hblock hwritable code

theorem hasConditions_of_takeBranch {branch : Tree} (h : Reaches (takeBranch name branch) s s₁)
    (hs : HasConditions name s) : HasConditions name s₁ := by
  rw [takeBranch] at h
  cases htest : branchTest? name branch with
  | none =>
    rw [htest] at h
    rw [h.eq (reaches_drop s)]
    exact hs
  | some test =>
    rw [htest] at h
    obtain ⟨-, htests⟩ := Option.filter_eq_some_iff.mp htest
    apply hasConditions_of_keepOrDrop h hs
    intro hwritable code
    refine .inr ⟨test.value, ?_, rfl⟩
    rw [← eq_equals_of_tests htests]
    exact if_pos hwritable

theorem hasConditions_of_takeChain (h : Reaches (takeChain name t) s s₁) (hs : HasConditions name s) :
    HasConditions name s₁ := by
  obtain ⟨s', hmembers, hlast⟩ := h.exists_of_bind
  have hs' : HasConditions name s' := hmembers.forM_induction hs fun _ _ _ _ => hasConditions_of_takeBranch
  -- What is left is the final `else`.
  split at hlast
  · split at hlast
    · exact hasConditions_of_keepOrDrop hlast hs' fun _ _ => .inl ⟨rfl, rfl⟩
    · exact hlast.eq (reaches_pure s') ▸ hs'
  · exact hlast.eq (reaches_pure s') ▸ hs'

theorem hasConditions_of_visitPlace {q : TreePath × Tree} (h : Reaches (visitPlace name q) s s₁)
    (hs : HasConditions name s) : HasConditions name s₁ := by
  cases hskip : s.covered.contains q.1 || !q.2.isBottomLevel with
  | true => exact h.eq (reaches_visit_skipped hskip) ▸ hs
  | false =>
    obtain ⟨s', hchain, rfl⟩ := reaches_takeChain_of_visit hskip h
    have hs' : HasConditions name s' := hasConditions_of_takeChain hchain hs
    exact hs'

/-- The blocks of a collection are for tests of its variable, or plain `else` blocks. -/
theorem hasCondition_of_collect {c c' : BlockCollector} {table : BlockTable} (h : collect c t = (.ok table, c'))
    (hb : b ∈ table.blocks) : ∃ name, c.variableName = some name ∧ HasCondition name b := by
  by_cases hnothing : c.variableName = none ∨ c.variableName = some ""
  · rw [collect_of_nothing hnothing] at h
    rw [← Except.ok.inj (Prod.mk.inj h).1] at hb
    cases hb
  · obtain ⟨name, hname, hne⟩ := exists_name_of_not_nothing hnothing
    obtain ⟨s, hvisits, rfl⟩ := reaches_of_collect hname hne h
    have hnone : HasConditions name ⟨{}, c.dropped, []⟩ := fun _ hb => absurd hb List.not_mem_nil
    have hs : HasConditions name s := hvisits.forM_induction hnone fun _ _ _ _ => hasConditions_of_visitPlace
    exact ⟨name, hname, hs b hb⟩

/-- No test has the text of a plain `else`. -/
theorem describe?_ne_elseTag (test : SelectorTest) : test.describe? ≠ some LeafBlock.elseTag := by
  intro h
  obtain ⟨-, htext⟩ := Option.ite_none_right_eq_some.mp h
  -- A test is shown with spaces around its operator.
  have hspace : ' ' ∈ test.describe.toList := by
    rw [toList_describe]
    exact List.mem_append_right _ List.mem_cons_self
  rw [Option.some.inj htext] at hspace
  exact absurd hspace (by decide)

theorem exists_int_of_isCase {value : Number} (h : b.IsCase) (hvalue : b.value = .number value) :
    ∃ n : Int, value = .int n := by
  rcases h with helse | ⟨n, hn⟩
  · cases hvalue.symm.trans helse
  · exact ⟨n, Scalar.number.inj (hvalue.symm.trans hn)⟩

/-- Blocks for integers or plain `else` blocks with the same condition are selected by the same value. -/
theorem value_eq_of_condition_eq {name' : String} {b' : LeafBlock} (hname : ' ' ∉ name.toList) (hname' : ' ' ∉ name'.toList)
    (h : HasCondition name b) (h' : HasCondition name' b') (hb : b.IsCase) (hb' : b'.IsCase)
    (heq : b.condition = b'.condition) : b.value = b'.value := by
  -- Either both are for tests or both are plain `else` blocks, since the two kinds of conditions do not meet.
  rcases h with ⟨hcondition, hvalue⟩ | ⟨value, htext, hvalue⟩
  · rcases h' with ⟨-, hvalue'⟩ | ⟨value', htext', -⟩
    · rw [hvalue, hvalue']
    · rw [← heq, hcondition] at htext'
      exact absurd htext' (describe?_ne_elseTag _)
  · rcases h' with ⟨hcondition', -⟩ | ⟨value', htext', hvalue'⟩
    · rw [heq, hcondition'] at htext
      exact absurd htext (describe?_ne_elseTag _)
    · obtain ⟨m, rfl⟩ := exists_int_of_isCase hb hvalue
      obtain ⟨n, rfl⟩ := exists_int_of_isCase hb' hvalue'
      obtain ⟨⟨-, -, rfl⟩, -⟩ := (describe?_eq_iff hname hname').mp ⟨b'.condition, heq ▸ htext, htext'⟩
      rw [hvalue, hvalue']

end BlockCollector

namespace SelectorTest

open Deflatten.Tree

/-- A test for an integer and a recognised test are read back as they are written. The text of a test for an integer whose
name has no space tells the name, the operator and the integer, so that collected blocks with the same condition are selected
by the same value. A test whose integer has too many digits is neither written nor shown. -/
theorem readBack_and_told_by_text :
    (∀ name operator n, operator = equality ∨ operator = lessThan →
      (forInteger name operator n).toTree?.bind ofTree? =
        if (Number.int n).isWritable then some (forInteger name operator n) else none) ∧
      (∀ t test, ofTree? t = some test →
        test.toTree?.bind ofTree? = if test.value.isWritable then some test else none) ∧
      (∀ name name' operator operator' m n, ' ' ∉ name.toList → ' ' ∉ name'.toList →
        ((∃ text, (forInteger name operator m).describe? = some text ∧
            (forInteger name' operator' n).describe? = some text) ↔
          (name = name' ∧ operator = operator' ∧ m = n) ∧ (Number.int m).isWritable)) ∧
      ∀ (c c' d d' : BlockCollector) (t t' : Tree) (table table' : BlockTable),
        c.collect t = (.ok table, d) → c'.collect t' = (.ok table', d') →
        (∀ name, c.variableName = some name → ' ' ∉ name.toList) →
        (∀ name, c'.variableName = some name → ' ' ∉ name.toList) →
        ∀ b ∈ table.blocks, ∀ b' ∈ table'.blocks, b.IsCase → b'.IsCase → b.condition = b'.condition →
          b.value = b'.value := by
  refine ⟨?_, fun t test => ofTree?_toTree?_of_recognised, fun name name' operator operator' m n => describe?_eq_iff, ?_⟩
  · intro name operator n hoperator
    have hname : (forInteger name operator n).name ≠ .null := Scalar.noConfusion
    exact ofTree?_toTree? hname hoperator rfl
  · intro c c' d d' t t' table table' hcollect hcollect' hc hc' b hb b' hb' hcase hcase' heq
    obtain ⟨name, hname, hcondition⟩ := BlockCollector.hasCondition_of_collect hcollect hb
    obtain ⟨name', hname', hcondition'⟩ := BlockCollector.hasCondition_of_collect hcollect' hb'
    exact BlockCollector.value_eq_of_condition_eq (hc name hname) (hc' name' hname') hcondition hcondition' hcase hcase' heq

/-- A range test for two that holds a binary64 number. -/
def roundedTest : Tree :=
  .node Tag.binary [("operator", .text lessThan), ("left", .node Tag.name [("name", .text "s")]),
    ("right", .node Tag.literal [("value", .scalar (.number (.float (.ofRatio false 2 1)))), ("raw", .text "2.0")])]

/-- The two branches for one have the same condition, and the same value with it. -/
theorem readBack_and_told_by_text_loopBeforeBranch :
    (forInteger "s" equality (-12)).toTree?.bind ofTree? = some (forInteger "s" equality (-12)) ∧
      ofTree? roundedTest = some (forInteger "s" lessThan 2) ∧
      (forInteger "s" lessThan 2).toTree?.bind ofTree? = some (forInteger "s" lessThan 2) ∧
      ¬(∃ text, (forInteger "s" equality 1).describe? = some text ∧ (forInteger "s" equality (-1)).describe? = some text) ∧
      ∃ table c', BlockCollector.collect ⟨some "s", 0⟩ BlockCollector.loopBeforeBranch = (.ok table, c') ∧
        ∃ b ∈ table.blocks, ∃ b' ∈ table.blocks, b.code ≠ b'.code ∧ b.condition = b'.condition ∧ b.value = b'.value := by
  obtain ⟨hwritten, hrecognised, htexts, hblocks⟩ := readBack_and_told_by_text
  have hrounded : ofTree? roundedTest = some (forInteger "s" lessThan 2) := by decide +kernel
  have hfields : BlockCollector.loopBeforeBranch.HasDistinctFields := by decide +kernel
  have hname : ∀ name, some "s" = some name → ' ' ∉ name.toList := by
    rintro name ⟨⟩
    decide
  obtain ⟨table, c', hcollect⟩ := BlockCollector.exists_collect_loopBeforeBranch
  have hlast : [⟨"s === 1", .int 1, "b();"⟩, ⟨"s === 1", .int 1, "a();"⟩] <:+
      (BlockCollector.collected (some "s") BlockCollector.loopBeforeBranch).map BlockCollector.Branch.block := by
    decide +kernel
  rw [BlockCollector.map_block_collected hfields hcollect] at hlast
  have hb := hlast.subset List.mem_cons_self
  have hb' := hlast.subset (List.mem_cons_of_mem _ List.mem_cons_self)
  have hnegative : (Number.int (-12)).isWritable := by decide +kernel
  have htwo : (forInteger "s" lessThan 2).value.isWritable := by decide +kernel
  refine ⟨?_, hrounded, ?_, fun hsame => ?_, table, c', hcollect, _, hb, _, hb', by decide, rfl, ?_⟩
  · rw [hwritten "s" equality (-12) (.inl rfl), if_pos hnegative]
  · rw [hrecognised _ _ hrounded, if_pos htwo]
  · obtain ⟨⟨-, -, hnumber⟩, -⟩ := (htexts "s" "s" equality equality 1 (-1) (by decide) (by decide)).mp hsame
    exact absurd hnumber (by decide)
  · exact hblocks _ _ _ _ _ _ _ _ hcollect hcollect hname hname _ hb _ hb' (.inr ⟨1, rfl⟩) (.inr ⟨1, rfl⟩) rfl

/-- The script `if (s === N) { a(); }` for a number `N`, which is long in the case of interest: its literal has a name for its
text. -/
def caseScript (n : Nat) : Tree :=
  scriptOf [.ifThen
    (.node Tag.binary [("operator", .text equality), ("left", .node Tag.name [("name", .text "s")]),
      ("right", .node Tag.literal [("value", .scalar (.number (.int n))), ("raw", .text "N")])])
    (blockOf [callOf "a"]) .null]

/-- A test for `10 ^ 4300` has one digit too many: it is neither written nor shown. A range test for the number above halts
the pass that is to write it, and a branch for the number fails the collection that is to show it. -/
theorem not_readBack_longInteger :
    (forInteger "s" equality (Nat.pow 10 4300)).toTree?.bind ofTree? ≠
        some (forInteger "s" equality (Nat.pow 10 4300)) ∧
      (forInteger "s" equality (Nat.pow 10 4300)).describe? = none ∧
      (RangeTest.halted? (rangeScript (Nat.pow 10 4300 + 1))).isSome ∧
      (BlockCollector.collect ⟨some "s", 0⟩ (caseScript (Nat.pow 10 4300))).1 matches .error .longInteger := by
  refine ⟨?_, ?_, ?_, ?_⟩ <;> decide +kernel

end SelectorTest
end Deflatten
