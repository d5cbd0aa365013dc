import Deflatten.Proofs.Number.Digits
import Deflatten.Replay
import Mathlib.Data.List.Basic
import Mathlib.Data.List.Perm.Basic
/-!
# Positions of a replay

A replay sorts the positions of an order into those with a block and those without: each list is increasing, and together
they are all positions. Nothing is remembered from one position to the next, so a replay of two orders one after the other
is that of the first followed by that of the second, its positions moved on (`Replay.ofOrder_positions`). The position of
a block is read off its heading.
-/

namespace Deflatten.Replay

open Decimal

/-! ## Headings -/

/-- What a heading says before the position. -/
def opening (label : String) : String := "// " ++ label ++ " "

/-- A heading from the position on. -/
def afterOpening (label note : String) : List Char := note.toList.drop (opening label).toList.length

/-- The position that a heading tells. -/
def positionIn (label note : String) : Nat := natural ((afterOpening label note).takeWhile Char.isDigit)

/-- A heading with its position moved on. -/
def moveNote (label : String) (k : Nat) (note : String) : String :=
  opening label ++ toString (positionIn label note + k) ++ String.ofList ((afterOpening label note).dropWhile Char.isDigit)

/-- The positions of the blocks, as their headings tell them. -/
def positions (label : String) (r : Replay) : List Nat := r.blocks.map fun block => positionIn label block.1

/-- A replay with all its positions moved on. -/
def moved (label : String) (k : Nat) (r : Replay) : Replay where
  blocks := r.blocks.map fun block => (moveNote label k block.1, block.2)
  unmatched := r.unmatched.map (· + k)

/-- One replay after another. -/
def followedBy (r s : Replay) : Replay := ⟨r.blocks ++ s.blocks, r.unmatched ++ s.unmatched⟩

variable (label : String) (table : BlockTable) (b : LeafBlock)

theorem afterOpening_heading (p : Nat) :
    afterOpening label (heading label p b) = Nat.toDigits 10 p ++ ':' :: ' ' :: b.condition.toList := by
  have hheading : (heading label p b).toList =
      (opening label).toList ++ (Nat.toDigits 10 p ++ ':' :: ' ' :: b.condition.toList) := by
    simp only [heading, opening, String.toList_append, toList_toString, List.append_assoc]
    rfl
  rw [afterOpening, hheading, List.drop_left]

theorem endsDigits_colon (cs : List Char) : EndsDigits (':' :: cs) := by
  rintro c hc
  obtain rfl : ':' = c := Option.some.inj hc
  rfl

/-- A heading tells the position that it was made for. -/
theorem positionIn_heading (p : Nat) : positionIn label (heading label p b) = p := by
  rw [positionIn, afterOpening_heading, takeWhile_toDigits_append p (endsDigits_colon _), natural_toDigits]

theorem moveNote_heading (k p : Nat) : moveNote label k (heading label p b) = heading label (p + k) b := by
  have hrest : String.ofList (':' :: ' ' :: b.condition.toList) = ": " ++ b.condition :=
    String.toList_injective (by simp)
  rw [moveNote, positionIn_heading, afterOpening_heading, dropWhile_toDigits_append p (endsDigits_colon _), hrest,
    ← String.append_assoc]
  rfl

/-! ## Positions with a block and without -/

/-- The block of a position, if there is one. -/
def blockAt? (q : Scalar × Nat) : Option (String × String) :=
  (table.lookup q.1).map fun b => (heading label q.2 b, b.code)

/-- A replay goes through the positions and keeps the two kinds apart. -/
theorem startingAt_eq (position : Nat) (values : List Scalar) :
    startingAt label table position values =
      ⟨(values.zipIdx position).filterMap (blockAt? label table),
        ((values.zipIdx position).filter fun q => (table.lookup q.1).isNone).map Prod.snd⟩ := by
  induction values generalizing position with
  | nil => rfl
  | cons value values ih =>
    rw [startingAt, ih, List.zipIdx_cons, List.filterMap_cons, List.filter_cons, blockAt?]
    cases table.lookup value <;> rfl

theorem positions_startingAt (position : Nat) (values : List Scalar) :
    positions label (startingAt label table position values) =
      ((values.zipIdx position).filter fun q => !(table.lookup q.1).isNone).map Prod.snd := by
  rw [startingAt_eq]
  show ((values.zipIdx position).filterMap (blockAt? label table)).map (fun block => positionIn label block.1) = _
  induction values.zipIdx position with
  | nil => rfl
  | cons q qs ih =>
    rw [List.filterMap_cons, List.filter_cons, blockAt?]
    cases table.lookup q.1 with
    | none => exact ih
    | some b =>
      show positionIn label (heading label q.2 b) :: _ = q.2 :: _
      rw [positionIn_heading, ih]

theorem pairwise_lt_of_filter (values : List Scalar) (position : Nat) (keep : Scalar × Nat → Bool) :
    (((values.zipIdx position).filter keep).map Prod.snd).Pairwise (· < ·) := by
  have hsublist : (((values.zipIdx position).filter keep).map Prod.snd).Sublist ((values.zipIdx position).map Prod.snd) :=
    List.filter_sublist.map Prod.snd
  rw [List.zipIdx_map_snd] at hsublist
  exact (List.pairwise_lt_range' 1 Nat.one_pos).sublist hsublist

/-- The two kinds of positions together are all. -/
theorem positions_perm (values : List Scalar) :
    (positions label (startingAt label table 0 values) ++ (startingAt label table 0 values).unmatched).Perm
      (List.range values.length) := by
  have hall := (List.filter_append_perm (fun q : Scalar × Nat => (table.lookup q.1).isNone) values.zipIdx).map Prod.snd
  rw [positions_startingAt, startingAt_eq, ← List.map_append, List.range_eq_range', ← List.zipIdx_map_snd]
  exact ((List.perm_append_comm).map Prod.snd).trans hall

/-! ## One order after another -/

theorem startingAt_append (position : Nat) (f g : List Scalar) :
    startingAt label table position (f ++ g) =
      (startingAt label table position f).followedBy (startingAt label table (position + f.length) g) := by
  simp only [startingAt_eq, followedBy, List.zipIdx_append, List.filterMap_append, List.filter_append, List.map_append]

/-- A replay from a later position on is the same replay with its positions moved on. -/
theorem startingAt_add (position k : Nat) (values : List Scalar) :
    startingAt label table (position + k) values = (startingAt label table position values).moved label k := by
  induction values generalizing position with
  | nil => rfl
  | cons value values ih =>
    rw [startingAt, startingAt, Nat.add_right_comm, ih]
    cases table.lookup value with
    | none => rfl
    | some b => simp only [moved, List.map_cons, moveNote_heading]

/-! ## The blocks of a replay -/

/-- A block is the first of a table that a value leads to. -/
def IsFirstFor (table : BlockTable) (value : Scalar) (b : LeafBlock) : Prop :=
  ∃ i : Nat, table.blocks[i]? = some b ∧ b.selectedBy value ∧
    ∀ j < i, ∀ a, table.blocks[j]? = some a → a.selectedBy value = false

theorem isFirstFor_of_lookup {table : BlockTable} {value : Scalar} {b : LeafBlock} (h : table.lookup value = some b) :
    IsFirstFor table value b := by
  obtain ⟨hselected, i, hi, hb, hbefore⟩ := List.find?_eq_some_iff_getElem.mp h
  refine ⟨i, by rw [List.getElem?_eq_getElem hi, hb], hselected, fun j hj a ha => ?_⟩
  obtain ⟨hlt, rfl⟩ := List.getElem?_eq_some_iff.mp ha
  simpa using hbefore j hj

/-- A replay sorts the positions of an order into those with a block and those without, each kind in increasing order and
every position once. A position with a block has the condition and the code of the first block that its value leads to; to
a position without none is led. A replay of two orders one after the other is that of the first followed by that of the
second, its positions moved on by the length of the first. -/
theorem ofOrder_positions (f g : List Scalar) (origin : Origin) :
    (positions label (ofOrder label table ⟨f, origin⟩)).Pairwise (· < ·) ∧
      (ofOrder label table ⟨f, origin⟩).unmatched.Pairwise (· < ·) ∧
      (positions label (ofOrder label table ⟨f, origin⟩)).Disjoint (ofOrder label table ⟨f, origin⟩).unmatched ∧
      (positions label (ofOrder label table ⟨f, origin⟩) ++ (ofOrder label table ⟨f, origin⟩).unmatched).Perm
        (List.range f.length) ∧
      (∀ block ∈ (ofOrder label table ⟨f, origin⟩).blocks, ∃ value b, f[positionIn label block.1]? = some value ∧
        IsFirstFor table value b ∧ block = (heading label (positionIn label block.1) b, b.code)) ∧
      (∀ p ∈ (ofOrder label table ⟨f, origin⟩).unmatched, ∃ value, f[p]? = some value ∧
        ∀ b ∈ table.blocks, b.selectedBy value = false) ∧
      ofOrder label table ⟨f ++ g, origin⟩ =
        (ofOrder label table ⟨f, origin⟩).followedBy ((ofOrder label table ⟨g, origin⟩).moved label f.length) := by
  have hperm := positions_perm label table f
  refine ⟨?_, ?_, ?_, hperm, ?_, ?_, ?_⟩
  · rw [ofOrder, positions_startingAt]
    exact pairwise_lt_of_filter f 0 _
  · rw [ofOrder, startingAt_eq]
    exact pairwise_lt_of_filter f 0 _
  · exact List.disjoint_iff_ne.mpr (List.nodup_append.mp (hperm.nodup_iff.mpr List.nodup_range)).2.2
  · intro block hblock
    rw [ofOrder, startingAt_eq] at hblock
    obtain ⟨⟨value, p⟩, hq, hsome⟩ := List.mem_filterMap.mp hblock
    obtain ⟨b, hlookup, rfl⟩ := Option.map_eq_some_iff.mp hsome
    have hvalue : f[p]? = some value := List.mem_zipIdx_iff_getElem?.mp hq
    refine ⟨value, b, ?_, isFirstFor_of_lookup hlookup, ?_⟩
    · rw [positionIn_heading, hvalue]
    · rw [positionIn_heading]
  · intro p hp
    rw [ofOrder, startingAt_eq] at hp
    obtain ⟨⟨value, p⟩, hq, rfl⟩ := List.mem_map.mp hp
    obtain ⟨hq, hnone⟩ := List.mem_filter.mp hq
    refine ⟨value, List.mem_zipIdx_iff_getElem?.mp hq, fun b hb => ?_⟩
    simpa using List.find?_eq_none.mp (Option.isNone_iff_eq_none.mp hnone) b hb
  · rw [ofOrder, ofOrder, ofOrder, startingAt_append, startingAt_add]

/-- Of the order 1, `true`, 1 the first and the last position have the first of two blocks for 1; an order after it goes on
at position 3. -/
theorem ofOrder_positions_repeatedValue :
    positions "at" (ofOrder "at" ⟨[⟨"s === 1", .int 1, "a();"⟩, ⟨"s === 1", .int 1, "b();"⟩]⟩
        ⟨[.int 1, .bool true, .int 1], .declaration⟩) = [0, 2] ∧
      ofOrder "at" ⟨[⟨"s === 1", .int 1, "a();"⟩, ⟨"s === 1", .int 1, "b();"⟩]⟩
          ⟨[.int 1, .bool true, .int 1] ++ [.null], .declaration⟩ =
        ⟨[("// at 0: s === 1", "a();"), ("// at 2: s === 1", "a();")], [1, 3]⟩ := by
  refine ⟨by decide +kernel, ?_⟩
  rw [(ofOrder_positions "at" ⟨[⟨"s === 1", .int 1, "a();"⟩, ⟨"s === 1", .int 1, "b();"⟩]⟩
    [.int 1, .bool true, .int 1] [.null] .declaration).2.2.2.2.2.2]
  decide +kernel

end Deflatten.Replay
