import Deflatten.Proofs.Number.Equality
import Deflatten.Replay
import Mathlib.Data.List.Perm.Basic
/-!
# First blocks

Of the blocks whose values are equal a value leads to the first, and to a block that is tagged `else` none leads. So a
replay depends on a table only through the first block of each value: blocks that come later or are tagged may be deleted,
and blocks of different values may stand in any order (`Replay.ofOrder_eq_of_firsts`). The reason is that equal values
are led to by the same values (`LeafBlock.selectedBy_congr`).
-/

namespace Deflatten

/-! ## What leads to a block -/

namespace LeafBlock

theorem isElse_eq_same (b : LeafBlock) : b.isElse = b.value.same (.text elseTag) := by
  rw [isElse]
  cases b.value with
  | text s => rw [Scalar.same_text, Bool.eq_iff_iff, beq_iff_eq, beq_iff_eq, Scalar.text.injEq]
  | null => rfl
  | bool _ => rfl
  | number _ => rfl

/-- The same values lead to blocks of equal values. -/
theorem selectedBy_congr {a b : LeafBlock} (h : a.value.same b.value) (value : Scalar) :
    a.selectedBy value = b.selectedBy value := by
  rw [selectedBy, selectedBy, isElse_eq_same, isElse_eq_same, Scalar.same_congr h, Scalar.same_congr h]

/-- Two blocks to which one value leads have equal values. -/
theorem same_of_selectedBy {a b : LeafBlock} {value : Scalar} (ha : a.selectedBy value) (hb : b.selectedBy value) :
    a.value.same b.value := by
  rw [selectedBy, Bool.and_eq_true] at ha hb
  exact Scalar.same_trans ha.2 (Scalar.same_comm b.value value ▸ hb.2)

theorem not_selectedBy_of_isElse {b : LeafBlock} (h : b.isElse) (value : Scalar) : b.selectedBy value = false := by
  rw [selectedBy, h]
  rfl

end LeafBlock

/-! ## Lists in which a first match stays -/

section Lists

variable {α : Type} {p : α → Bool}

/-- The items of a list at the places that are kept, counted from `n`. -/
def keptFrom (keep : Nat → Bool) (n : Nat) (as : List α) : List α :=
  ((as.zipIdx n).filter fun q => keep q.2).map Prod.fst

theorem keptFrom_cons (keep : Nat → Bool) (n : Nat) (a : α) (as : List α) :
    keptFrom keep n (a :: as) = if keep n then a :: keptFrom keep (n + 1) as else keptFrom keep (n + 1) as := by
  rw [keptFrom, List.zipIdx_cons, List.filter_cons]
  cases keep n <;> rfl

/-- The first match stays if every match that is left out has another one before it. -/
theorem find?_keptFrom {keep : Nat → Bool} {n : Nat} {as : List α}
    (h : ∀ i a, as[i]? = some a → keep (n + i) = false → p a → ∃ j < i, ∃ b, as[j]? = some b ∧ p b) :
    (keptFrom keep n as).find? p = as.find? p := by
  induction as generalizing n with
  | nil => rfl
  | cons a as ih =>
    rw [keptFrom_cons, List.find?_cons]
    cases ha : p a with
    | true =>
      -- The first item matches, so that it is not left out.
      cases hkeep : keep n with
      | true => rw [if_pos rfl, List.find?_cons, ha]
      | false =>
        obtain ⟨j, hj, -⟩ := h 0 a rfl hkeep ha
        exact absurd hj (Nat.not_lt_zero j)
    | false =>
      have hrest : (keptFrom keep (n + 1) as).find? p = as.find? p := by
        refine ih fun i b hb hkeep hmatch => ?_
        rw [Nat.add_assoc, Nat.add_comm 1] at hkeep
        obtain ⟨j, hj, c, hc, hmatch'⟩ := h (i + 1) b hb hkeep hmatch
        cases j with
        | zero =>
          obtain rfl : a = c := Option.some.inj hc
          rw [ha] at hmatch'
          cases hmatch'
        | succ j => exact ⟨j, Nat.lt_of_succ_lt_succ hj, c, hc, hmatch'⟩
      rw [← hrest]
      split
      · rw [List.find?_cons, ha]
      · rfl

/-- Where no two items match, the order of a list does not matter. -/
theorem find?_eq_of_perm {as bs : List α} (h : as.Perm bs) (has : as.Pairwise fun a b => ¬(p a ∧ p b)) :
    as.find? p = bs.find? p := by
  have hperm : (as.filter p).Perm (bs.filter p) := h.filter p
  have hpairs : (as.filter p).Pairwise fun _ _ => False := by
    refine (List.Pairwise.and_mem.mp (has.filter p)).imp ?_
    rintro a b ⟨ha, hb, hnot⟩
    exact hnot ⟨(List.mem_filter.mp ha).2, (List.mem_filter.mp hb).2⟩
  rw [← List.head?_filter, ← List.head?_filter]
  match hmatches : as.filter p with
  | [] => rw [hmatches, List.nil_perm] at hperm; rw [hperm]
  | [a] => rw [hmatches, List.singleton_perm] at hperm; rw [← hperm]
  | a :: b :: _ =>
    rw [hmatches, List.pairwise_cons] at hpairs
    exact absurd (hpairs.1 b List.mem_cons_self) id

end Lists

/-! ## Tables -/

namespace BlockTable

variable {table : BlockTable}

/-- Whether the block at a place is tagged `else` or comes after a block of an equal value. -/
def isShadowed (table : BlockTable) (i : Nat) : Bool :=
  table.blocks[i]?.any fun b => b.isElse || (table.blocks.take i).any fun a => a.value.same b.value

theorem isShadowed_iff {i : Nat} {b : LeafBlock} (hb : table.blocks[i]? = some b) :
    table.isShadowed i ↔ b.isElse ∨ ∃ j < i, ∃ a, table.blocks[j]? = some a ∧ a.value.same b.value := by
  rw [isShadowed, hb, Option.any_some, Bool.or_eq_true, List.any_eq_true]
  refine or_congr_right ⟨?_, ?_⟩
  · rintro ⟨a, ha, hsame⟩
    obtain ⟨j, hj, rfl⟩ := List.mem_take_iff_getElem.mp ha
    exact ⟨j, by omega, _, List.getElem?_eq_getElem (by omega), hsame⟩
  · rintro ⟨j, hj, a, ha, hsame⟩
    obtain ⟨hlt, rfl⟩ := List.getElem?_eq_some_iff.mp ha
    exact ⟨_, List.mem_take_iff_getElem.mpr ⟨j, by omega, rfl⟩, hsame⟩

/-- A table with the blocks at the places that are kept. -/
def keeping (keep : Nat → Bool) (table : BlockTable) : BlockTable := ⟨keptFrom keep 0 table.blocks⟩

/-- To leave out shadowed blocks changes nothing that is looked up. -/
theorem lookup_keeping {keep : Nat → Bool} (h : ∀ i < table.size, keep i = false → table.isShadowed i) (value : Scalar) :
    (table.keeping keep).lookup value = table.lookup value := by
  refine find?_keptFrom fun i b hb hkeep hselected => ?_
  rw [Nat.zero_add] at hkeep
  have hlt : i < table.size := (List.getElem?_eq_some_iff.mp hb).1
  rcases (isShadowed_iff hb).mp (h i hlt hkeep) with helse | ⟨j, hj, a, ha, hsame⟩
  · rw [LeafBlock.not_selectedBy_of_isElse helse] at hselected
    cases hselected
  · exact ⟨j, hj, a, ha, LeafBlock.selectedBy_congr hsame value ▸ hselected⟩

/-- In a table of different values the order of the blocks does not matter to what is looked up. -/
theorem lookup_eq_of_perm {table' : BlockTable} (hperm : table.blocks.Perm table'.blocks)
    (h : table.blocks.Pairwise fun a b => a.value.same b.value = false) (value : Scalar) :
    table.lookup value = table'.lookup value := by
  refine find?_eq_of_perm hperm (h.imp ?_)
  rintro a b hdifferent ⟨ha, hb⟩
  rw [LeafBlock.same_of_selectedBy ha hb] at hdifferent
  cases hdifferent

/-- Blocks at the end, however many, do not change what has been found. -/
theorem lookup_pushes_of_some {value : Scalar} {a : LeafBlock} (bs : List LeafBlock) (h : table.lookup value = some a) :
    (bs.foldl push table).lookup value = some a := by
  induction bs generalizing table with
  | nil => exact h
  | cons b bs ih => exact ih (lookup_push_of_some b h)

end BlockTable

namespace Replay

variable {table table' : BlockTable}

/-- Tables in which the same is looked up give the same replays. -/
theorem startingAt_congr (h : ∀ value, table'.lookup value = table.lookup value) (label : String) (position : Nat)
    (values : List Scalar) : startingAt label table' position values = startingAt label table position values := by
  induction values generalizing position with
  | nil => rfl
  | cons value values ih => rw [startingAt, startingAt, h, ih]

/-- A replay depends on a table only through the first block of each value. To delete blocks that are tagged `else` or that
come after a block of an equal value changes no replay, and in a table of different values the order of the blocks
matters to none. Blocks that are added at the end change nothing that has been found. -/
theorem ofOrder_eq_of_firsts (table : BlockTable) :
    (∀ keep : Nat → Bool, (∀ i < table.size, keep i = false → table.isShadowed i) → ∀ label order,
        ofOrder label (table.keeping keep) order = ofOrder label table order) ∧
      (∀ table' : BlockTable, table.blocks.Perm table'.blocks →
        (table.blocks.Pairwise fun a b => a.value.same b.value = false) → ∀ label order,
          ofOrder label table' order = ofOrder label table order) ∧
      ∀ value b, table.lookup value = some b →
        ∀ bs : List LeafBlock, (bs.foldl BlockTable.push table).lookup value = some b := by
  refine ⟨fun keep hkeep label order => ?_, fun table' hperm hdifferent label order => ?_, fun value b hb bs => ?_⟩
  · exact startingAt_congr (BlockTable.lookup_keeping hkeep) label 0 order.values
  · exact startingAt_congr (fun value => (BlockTable.lookup_eq_of_perm hperm hdifferent value).symm) label 0 order.values
  · exact BlockTable.lookup_pushes_of_some bs hb

/-- Blocks for `nan`, for one in three kinds of values, for a plain `else` and for nothing. -/
def mixedValues : BlockTable :=
  ⟨[⟨"s === NaN", .number (.float .nan), "a();"⟩, ⟨"s === true", .bool true, "b();"⟩, ⟨"s === 1", .int 1, "c();"⟩,
    ⟨"s === 1.0", .number (.float (.finite false 4503599627370496 (-52))), "d();"⟩,
    ⟨"else", .text LeafBlock.elseTag, "e();"⟩, ⟨"s === null", .null, "f();"⟩]⟩

/-- The first two blocks and the last one are enough, in any order, and what they answer stays as it is. -/
theorem ofOrder_mixedValues :
    (∀ i < mixedValues.size, [0, 1, 5].contains i = false → mixedValues.isShadowed i) ∧
      mixedValues.keeping [0, 1, 5].contains ≠ mixedValues ∧
      ofOrder "at" (mixedValues.keeping [0, 1, 5].contains) ⟨[.int 1, .null, .text "else", .bool true], .declaration⟩ =
        ofOrder "at" mixedValues ⟨[.int 1, .null, .text "else", .bool true], .declaration⟩ ∧
      ((mixedValues.keeping [0, 1, 5].contains).blocks.Pairwise fun a b => a.value.same b.value = false) ∧
      ofOrder "at" ⟨(mixedValues.keeping [0, 1, 5].contains).blocks.reverse⟩ ⟨[.int 1, .null], .declaration⟩ =
        ofOrder "at" (mixedValues.keeping [0, 1, 5].contains) ⟨[.int 1, .null], .declaration⟩ ∧
      ([(default : LeafBlock)].foldl BlockTable.push mixedValues).lookup .null = some ⟨"s === null", .null, "f();"⟩ := by
  have hshadowed : ∀ i < mixedValues.size, [0, 1, 5].contains i = false → mixedValues.isShadowed i := by decide
  have hdifferent : (mixedValues.keeping [0, 1, 5].contains).blocks.Pairwise fun a b => a.value.same b.value = false := by
    decide
  refine ⟨hshadowed, by decide, ?_, hdifferent, ?_, ?_⟩
  · exact (ofOrder_eq_of_firsts mixedValues).1 _ hshadowed "at" _
  · exact (ofOrder_eq_of_firsts (mixedValues.keeping _)).2.1 ⟨_⟩ (List.reverse_perm _).symm hdifferent "at" _
  · exact (ofOrder_eq_of_firsts mixedValues).2.2 .null _ (by decide) _

end Replay
end Deflatten
