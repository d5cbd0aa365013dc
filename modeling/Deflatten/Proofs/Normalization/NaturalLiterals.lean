import Deflatten.Proofs.Normalization.Attempts
import Deflatten.Proofs.Number.Range
import Deflatten.Script.Basic
/-!
# Literals of natural numbers

In a script every number is written without a sign. If the literals of a tree hold natural numbers, those of the tree after
any runs of the passes do, also if runs halt: each is one of the tree, or the literal of a test that a run has written
(`attempts_hasNaturalLiterals`). The printer refuses a literal of a natural number if and only if the number lies beyond
the range of binary64, never for a sign (`Script.Printer.expression_number`).
-/

namespace Deflatten

namespace Number

/-- Whether a number is a natural number. -/
def isNatural : Number → Bool
  | .int n => 0 ≤ n
  | .float _ => false

theorem isNatural_iff {n : Number} : n.isNatural ↔ ∃ k : Nat, n = .int k := by
  cases n with
  | int n =>
    rw [isNatural, decide_eq_true_iff]
    constructor
    · exact fun h => ⟨n.toNat, by rw [Int.toNat_of_nonneg h]⟩
    · rintro ⟨k, hk⟩
      cases hk
      exact Int.natCast_nonneg k
  | float x =>
    refine iff_of_false Bool.false_ne_true ?_
    rintro ⟨k, hk⟩
    cases hk

end Number

namespace Tree

variable {t u : Tree}

/-- Every number that a literal of a tree holds is a natural number. -/
def HasNaturalLiterals (t : Tree) : Prop := ∀ u ∈ t.nodes, u.number?.all Number.isNatural

instance (t : Tree) : Decidable t.HasNaturalLiterals := inferInstanceAs (Decidable (∀ u ∈ t.nodes, _))

namespace HasNaturalLiterals

theorem of_mem_nodes (h : t.HasNaturalLiterals) (hu : u ∈ t.nodes) : u.HasNaturalLiterals :=
  fun w hw => h w (nodes_subset hu hw)

theorem exists_nat (h : t.HasNaturalLiterals) {n : Number} (hn : t.number? = some n) : ∃ k : Nat, n = .int k := by
  have hnatural := h t t.mem_nodes_self
  rw [hn, Option.all_some] at hnatural
  exact Number.isNatural_iff.mp hnatural

theorem hasIntegerLiterals (h : t.HasNaturalLiterals) : t.HasIntegerLiterals := by
  intro u hu
  cases hn : u.number? with
  | none => rfl
  | some n =>
    obtain ⟨k, rfl⟩ := (h.of_mem_nodes hu).exists_nat hn
    rfl

/-- A recognised test of a tree is for a natural number. -/
theorem ofTree? (h : t.HasNaturalLiterals) {test : SelectorTest} (htest : SelectorTest.ofTree? t = some test) :
    ∃ k : Nat, test.value = .int k := by
  obtain ⟨htag, -, -, hright, -⟩ := SelectorTest.ofTree?_eq_some htest
  have hmem := get_mem_nodes (isNode_of_hasTag htag) (rfl : isNote "right" = false)
    (isNode_of_hasTag (hasTag_of_number? hright))
  exact (h.of_mem_nodes hmem).exists_nat hright

end HasNaturalLiterals
end Tree

open Deflatten.Tree

variable {t : Tree}

/-! ## What the passes write -/

/-- The next value lies above natural numbers. -/
theorem ElseGuard.nextValue_nonneg (h : t.HasNaturalLiterals) (name : Scalar) : 0 ≤ nextValue t name := by
  rw [nextValue]
  cases hmax : (equalityValues t name).max? with
  | none => decide
  | some m =>
    obtain ⟨test, htest, hvalue⟩ := List.mem_filterMap.mp (List.max?_eq_some_iff.mp hmax).1
    obtain ⟨u, hu, hread⟩ := exists_mem_nodes_of_mem_chainTests htest
    obtain ⟨k, hk⟩ := (h.of_mem_nodes hu).ofTree? hread
    split at hvalue
    · rw [hk] at hvalue
      cases hvalue
      rw [Option.getD_some]
      omega
    · cases hvalue

/-- A pass writes tests for natural numbers. -/
theorem Pass.exists_nat_of_writes {p : Pass} (h : t.HasNaturalLiterals) {test : SelectorTest} (hwrites : p.Writes t test) :
    ∃ k : Nat, test.value = .int k := by
  cases p with
  | guardElses =>
    obtain ⟨v, hv, hguard⟩ := hwrites
    have hhead : v.node.HasNaturalLiterals := h.of_mem_nodes (List.mem_map_of_mem (DepthIndex.mem_heads_iff.mp hv).1)
    rw [ElseGuard.guardTest?_eq hhead.hasIntegerLiterals.hasIntegerTests, Option.map_eq_some_iff] at hguard
    obtain ⟨name, -, rfl⟩ := hguard
    exact ⟨_, congrArg Number.int (Int.toNat_of_nonneg (ElseGuard.nextValue_nonneg hhead name)).symm⟩
  | lowerRanges =>
    obtain ⟨u, hu, hlowered⟩ := hwrites
    obtain ⟨range, hrange, -, hnegative, rfl⟩ := RangeTest.lowered?_eq_some_iff.mp hlowered
    obtain ⟨k, hk⟩ := (h.of_mem_nodes hu).ofTree? hrange
    rw [hk, Number.pred_int, SelectorTest.isNegative_int, decide_eq_false_iff_not] at hnegative
    have hvalue : range.value.pred = .int ((k : Int) - 1).toNat := by
      rw [hk, Number.pred_int, Int.toNat_of_nonneg (by omega)]
    exact ⟨_, hvalue⟩

/-- A literal after a run of a pass is one of the tree but for what stands below it, or one that the run has written. -/
theorem Pass.literal_of_mem_nodes {p : Pass} (ht : t.HasDistinctFields) (h : t.HasNaturalLiterals) {w : Tree}
    (hw : w ∈ (p.attempt t).nodes) (hlit : w.hasTag Tag.literal) :
    (∃ u ∈ t.nodes, u.Keeps w) ∨ ∃ k : Nat, w = .number (.int k) ∧ (Number.int k).isWritable := by
  rcases p.keeps_or_comesWith ht hw with hkept | ⟨test, hwrites, hwritable, hnew⟩
  · exact .inl hkept
  · obtain ⟨k, hk⟩ := Pass.exists_nat_of_writes h hwrites
    rw [hk] at hwritable
    exact .inr ⟨k, by rw [hnew.eq_number hlit, hk], hwritable⟩

theorem Pass.hasNaturalLiterals_attempt (p : Pass) (ht : t.HasDistinctFields) (h : t.HasNaturalLiterals) :
    (p.attempt t).HasNaturalLiterals := by
  intro w hw
  cases hn : w.number? with
  | none => rfl
  | some n =>
    rw [Option.all_some, Number.isNatural_iff]
    rcases p.literal_of_mem_nodes ht h hw (hasTag_of_number? hn) with ⟨u, hu, hkeeps⟩ | ⟨k, rfl, -⟩
    · exact (h.of_mem_nodes hu).exists_nat (hkeeps.number.symm.trans hn)
    · exact ⟨k, (Option.some.inj hn).symm⟩

/-! ## Printing -/

namespace Script.Printer

/-- A literal of a natural number is printed without a sign and without parentheses, wherever it stands. -/
theorem expression_number (p : Printers) (level : Nat) (a : Ask) (k : Nat) :
    expression p level a (.number (.int k)) = numberText (.int k) := by
  have hsigned : isSigned (.int k) = false := by
    rw [isSigned, decide_eq_false_iff_not]
    omega
  have htext : literalText (.number (.int k)) = numberText (.int k) := rfl
  have hnumber : literalNumber? (.number (.int k)) = some (.int k) := rfl
  have hexpression : expression p level a (.number (.int k)) = literalExpression a (.number (.int k)) := rfl
  rw [hexpression, literalExpression, htext, hnumber, Option.any_some, hsigned]
  cases numberText (.int k) <;> rfl

/-- A natural number is refused if it lies beyond the range of binary64, and else printed. -/
theorem numberText_nat (k : Nat) :
    (k < Binary64.tooLarge → ∃ s, numberText (.int k) = .ok s) ∧
      (Binary64.tooLarge ≤ k → numberText (.int k) = .error .numberTooLarge) := by
  have hrange : Binary64.ofInt? k = none ↔ Binary64.tooLarge ≤ k := Binary64.ofInt?_eq_none_iff k
  constructor
  · intro hk
    obtain ⟨x, hx⟩ := Option.ne_none_iff_exists'.mp fun hnone => Nat.not_le.mpr hk (hrange.mp hnone)
    rw [numberText, hx]
    exact ⟨_, rfl⟩
  · intro hk
    rw [numberText, hrange.mpr hk]

end Script.Printer

/-! ## Runs of the passes -/

/-- After runs of the passes a literal is one of the tree but for what stands below it, or one that a run has written. -/
theorem literal_of_mem_nodes_attempts (ht : t.HasDistinctFields) (h : t.HasNaturalLiterals) (ps : List Pass) :
    (attempts ps t).HasNaturalLiterals ∧ ∀ w ∈ (attempts ps t).nodes, w.hasTag Tag.literal →
      (∃ u ∈ t.nodes, u.Keeps w) ∨ ∃ k : Nat, w = .number (.int k) ∧ (Number.int k).isWritable := by
  induction ps generalizing t with
  | nil =>
    rw [attempts_nil]
    exact ⟨h, fun w hw _ => .inl ⟨w, hw, .refl w⟩⟩
  | cons p ps ih =>
    rw [attempts_cons]
    obtain ⟨hnatural, hrest⟩ := ih (p.hasDistinctFields_attempt ht) (p.hasNaturalLiterals_attempt ht h)
    refine ⟨hnatural, fun w hw hlit => ?_⟩
    rcases hrest w hw hlit with ⟨v, hv, hvw⟩ | hnew
    · rcases p.literal_of_mem_nodes ht h hv (by rwa [← hvw.hasTag]) with ⟨u, hu, huv⟩ | ⟨k, rfl, hk⟩
      · exact .inl ⟨u, hu, huv.trans hvw⟩
      · -- Below a literal that was written nothing stands, so that it has stayed as it is.
        exact .inr ⟨k, hvw.same rfl (children_number _), hk⟩
    · exact .inr hnew

/-- After any runs of the passes, also if runs halt, the literals of a tree hold natural numbers if they did before. Every
recognised test is read back as it is written, if its number has few enough digits to be written. A literal that stands
for none of the tree has few enough digits; it is printed, unless it is refused for lying beyond the range of binary64. -/
theorem attempts_hasNaturalLiterals (ht : t.HasDistinctFields) (h : t.HasNaturalLiterals) (ps : List Pass) :
    (attempts ps t).HasNaturalLiterals ∧
      (∀ u ∈ (attempts ps t).nodes, ∀ test, SelectorTest.ofTree? u = some test →
        test.toTree?.bind SelectorTest.ofTree? = if test.value.isWritable then some test else none) ∧
      ∀ w ∈ (attempts ps t).nodes, w.hasTag Tag.literal →
        (∃ u ∈ t.nodes, u.Keeps w) ∨
          ∃ k : Nat, w = .number (.int k) ∧ (Number.int k).isWritable ∧
            ∀ (p : Script.Printer.Printers) (level : Nat) (a : Script.Printer.Ask),
              (k < Binary64.tooLarge → ∃ s, Script.Printer.expression p level a w = .ok s) ∧
                (Binary64.tooLarge ≤ k → Script.Printer.expression p level a w = .error .numberTooLarge) := by
  obtain ⟨hnatural, hliterals⟩ := literal_of_mem_nodes_attempts ht h ps
  refine ⟨hnatural, fun u hu test htest => ?_, fun w hw hlit => ?_⟩
  · obtain ⟨k, hk⟩ := (hnatural.of_mem_nodes hu).ofTree? htest
    have hoperator := (SelectorTest.ofTree?_eq_some htest).2.2.2.2
    have hread : SelectorTest.ofTree? test.toTree = some test := by
      rw [SelectorTest.ofTree?_toTree (ElseGuard.name_ne_null htest) hoperator, hk, Number.integral_int, ← hk]
    rw [SelectorTest.toTree?]
    split
    · rw [Option.bind_some, hread]
    · rfl
  · rcases hliterals w hw hlit with hkept | ⟨k, rfl, hwritable⟩
    · exact .inl hkept
    · refine .inr ⟨k, rfl, hwritable, fun p level a => ?_⟩
      rw [Script.Printer.expression_number]
      exact Script.Printer.numberText_nat k

/-- The first run lowers the range test for 1, and the second guards the `else` part by a test for 1. -/
theorem rangeThenElse_hasNaturalLiterals :
    rangeThenElse.HasDistinctFields ∧ rangeThenElse.HasNaturalLiterals ∧
      (attempts [.lowerRanges, .guardElses, .guardElses] rangeThenElse).HasNaturalLiterals ∧
      (attempts [.lowerRanges, .guardElses, .guardElses] rangeThenElse).nodes.filterMap number? =
        [.int 0, .int 1] := by
  have hfields : rangeThenElse.HasDistinctFields := by decide +kernel
  have hnatural : rangeThenElse.HasNaturalLiterals := by decide +kernel
  exact ⟨hfields, hnatural, (attempts_hasNaturalLiterals hfields hnatural _).1, by decide +kernel⟩

/-- The script `if (s < N) { a(); }` for a number `N`, which is long in the cases of interest: its literal has a name for
its text. -/
def rangeScript (n : Nat) : Tree :=
  scriptOf [.ifThen
    (.node Tag.binary [("operator", .text "<"), ("left", .node Tag.name [("name", .text "s")]),
      ("right", .node Tag.literal [("value", .scalar (.number (.int n))), ("raw", .text "N")])])
    (blockOf [callOf "a"]) .null]

/-- Where the test of `rangeScript` stands. -/
def rangeScriptTest : TreePath := [⟨"body", some 0⟩, ⟨"test", none⟩]

/-- The literal that the lowered test for `2 · 10 ^ 308` gets lies beyond binary64, and the printer refuses it. The test for
`10 ^ 4300 + 1` halts the run; it is recognised, but cannot be written to be read back. -/
theorem rangeScript_refused :
    ((rangeScript (2 * Nat.pow 10 308)).HasDistinctFields ∧ (rangeScript (2 * Nat.pow 10 308)).HasNaturalLiterals ∧
      ((attempts [.lowerRanges] (rangeScript (2 * Nat.pow 10 308))).at? (rangeScriptTest ++ [⟨"right", none⟩])).bind
        number? = some (.int (2 * Nat.pow 10 308 - 1)) ∧
      Script.print (attempts [.lowerRanges] (rangeScript (2 * Nat.pow 10 308))) =
        .error (.unprintable ⟨"Program", .numberTooLarge⟩)) ∧
    (rangeScript (Nat.pow 10 4300 + 1)).HasDistinctFields ∧ (rangeScript (Nat.pow 10 4300 + 1)).HasNaturalLiterals ∧
      Pass.lowerRanges.halts (rangeScript (Nat.pow 10 4300 + 1)) ∧
      ((attempts [.lowerRanges] (rangeScript (Nat.pow 10 4300 + 1))).at? rangeScriptTest).any fun u =>
        (SelectorTest.ofTree? u).any fun test => test.toTree?.isNone := by
  refine ⟨⟨?_, ?_, ?_, ?_⟩, ?_, ?_, ?_, ?_⟩ <;> decide +kernel

end Deflatten
