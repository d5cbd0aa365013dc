import Deflatten.Proofs.Dispatch.Branches
import Deflatten.Proofs.Dispatch.Effects
import Deflatten.Proofs.Dispatch.ForeignVariables
import Deflatten.Proofs.Normalization.Programs
/-!
# Collecting from a program

The collector goes through a whole program with one set of covered `if` statements and one count, yet it collects from one
statement after another. To take a chain has the same effect wherever a collection stands, so in the second of two parts of a
program it goes on as it would from that part alone (`GoesOn`), and the collection from the whole joins those from the parts
(`BlockCollector.joins_programOf_append`). A statement that does not test the selector can be put in
anywhere (`BlockCollector.collect_programOf_insert`). With what normalization does to a program, this holds before and after
it (`Normalized.program_append`).
-/

namespace Deflatten

open Deflatten.Tree

namespace BlockTable

/-- The blocks of one table and then those of another. -/
def append (a b : BlockTable) : BlockTable := ⟨a.blocks ++ b.blocks⟩

/-- The blocks of the first table keep their places. -/
theorem get?_append_left (a b : BlockTable) {i : Nat} (hi : i < a.size) : (a.append b).get? i = a.get? i := by
  have hnat : ¬(i : Int) < 0 := by omega
  simp only [get?, if_neg hnat, Int.toNat_natCast]
  rw [append, List.getElem?_append_left hi]

/-- The places of the blocks of the second table are shifted by the number of those of the first. -/
theorem get?_append_right (a b : BlockTable) (i : Nat) :
    (a.append b).get? (a.size + i : Nat) = (b.get? i).map fun e => (a.size + e.1, e.2) := by
  have hnat : ∀ j : Nat, ¬(j : Int) < 0 := fun j => by omega
  simp only [get?, if_neg (hnat _), Int.toNat_natCast, Option.map_map]
  have hget : (a.blocks ++ b.blocks)[a.size + i]? = b.blocks[i]? := by
    rw [size, List.getElem?_append_right (Nat.le_add_right ..), Nat.add_sub_cancel_left]
  rw [append, hget]
  rfl

end BlockTable

namespace BlockCollector

variable {name : String} {t : Tree} {s s' : Progress}

/-! ## Visits further on -/

/-- A collection that goes on in the second part of a program, as against one of that part alone: it has what it had
collected before and what the other has, and of the paths that are shifted it has covered those that the other has. -/
structure GoesOn (n : Nat) (before start s s' : Progress) : Prop where
  blocks : s.table.blocks = before.table.blocks ++ s'.table.blocks
  dropped : s.dropped + start.dropped = before.dropped + s'.dropped
  covered : ∀ p, shiftPath n p ∈ s.covered ↔ p ∈ s'.covered

variable {n : Nat} {before start : Progress}

/-- A visit further on has the result of the visit in the part alone. -/
theorem GoesOn.visit (name : String) {q : TreePath × Tree} (hq : q.1 ≠ []) (h : GoesOn n before start s s') :
    ((visitPlace name (shiftPath n q.1, q.2)).run.run s).1 = ((visitPlace name q).run.run s').1 ∧
      GoesOn n before start ((visitPlace name (shiftPath n q.1, q.2)).run.run s).2
        ((visitPlace name q).run.run s').2 := by
  obtain ⟨r, blocks, k, hrun⟩ := exists_run_visitPlace name q.2
  have hcontains : s.covered.contains (shiftPath n q.1) = s'.covered.contains q.1 := by
    rw [Bool.eq_iff_iff, List.contains_iff_mem, List.contains_iff_mem, h.covered]
  have hcovers : ∀ p, shiftPath n p ∈ covers (shiftPath n q.1, q.2) ↔ p ∈ covers q := by
    have hshifted : covers (shiftPath n q.1, q.2) = (covers q).map (shiftPath n) := by
      rw [covers, covers, List.map_map]
      exact List.map_congr_left fun k _ => (shiftPath_append hq _).symm
    intro p
    rw [hshifted, List.mem_map_of_injective (shiftPath_injective n)]
  rw [hrun, hrun, hcontains]
  split
  · exact ⟨rfl, h⟩
  · refine ⟨rfl, ?_, ?_, fun p => ?_⟩
    · rw [h.blocks, List.append_assoc]
    · have := h.dropped
      show s.dropped + k + start.dropped = before.dropped + (s'.dropped + k)
      omega
    · rw [List.mem_append, List.mem_append, h.covered]
      -- Only a visit that takes the whole chain covers its members.
      refine or_congr_left ?_
      cases r.isOk with
      | false => exact iff_of_false List.not_mem_nil List.not_mem_nil
      | true => exact hcovers p

/-- All visits further on have the result of the visits in the part alone. -/
theorem GoesOn.visits (name : String) {qs : List (TreePath × Tree)} (hqs : ∀ q ∈ qs, q.1 ≠ [])
    (h : GoesOn n before start s s') :
    (((qs.map fun q => (shiftPath n q.1, q.2)).forM (visitPlace name)).run.run s).1 =
        ((qs.forM (visitPlace name)).run.run s').1 ∧
      GoesOn n before start (((qs.map fun q => (shiftPath n q.1, q.2)).forM (visitPlace name)).run.run s).2
        ((qs.forM (visitPlace name)).run.run s').2 := by
  induction qs generalizing s s' with
  | nil => exact ⟨rfl, h⟩
  | cons q qs ih =>
    obtain ⟨hresult, hnext⟩ := h.visit name (hqs q List.mem_cons_self)
    have hcons : ∀ q qs, List.forM (q :: qs) (visitPlace name) =
        visitPlace name q >>= fun _ => List.forM qs (visitPlace name) := fun _ _ => rfl
    rw [List.map_cons, hcons, hcons, ExceptT.run_bind, ExceptT.run_bind, StateT.run_bind, StateT.run_bind]
    cases hfirst : (visitPlace name (shiftPath n q.1, q.2)).run.run s with
    | mk r s₁ =>
      cases halone : (visitPlace name q).run.run s' with
      | mk r' s₂ =>
        rw [hfirst, halone] at hresult hnext
        obtain rfl : r = r' := hresult
        cases r with
        | error _ => exact ⟨rfl, hnext⟩
        | ok _ => exact ih (fun r hr => hqs r (List.mem_cons_of_mem _ hr)) hnext

/-- What a collection covers is reached along a chain from an `if` statement that it has visited. -/
theorem exists_place_of_covered {qs : List (TreePath × Tree)} (h : Reaches (qs.forM (visitPlace name)) s s')
    {p : TreePath} (hp : p ∈ s'.covered) : p ∈ s.covered ∨ ∃ q ∈ qs, ∃ k, p = q.1 ++ chainPath k := by
  induction qs generalizing s with
  | nil =>
    rw [h.eq (reaches_pure s)] at hp
    exact .inl hp
  | cons q qs ih =>
    obtain ⟨s₁, hfirst, hrest⟩ := h.exists_of_cons
    rcases ih hrest with hbefore | ⟨r, hr, hpath⟩
    · cases hskip : s.covered.contains q.1 || !q.2.isBottomLevel with
      | true =>
        rw [hfirst.eq (reaches_visit_skipped hskip)] at hbefore
        exact .inl hbefore
      | false =>
        obtain ⟨s₂, htaken, rfl⟩ := reaches_takeChain_of_visit hskip hfirst
        rw [(blocks_of_takeChain htaken).1] at hbefore
        rcases List.mem_append.mp hbefore with hmember | hold
        · obtain ⟨k, -, rfl⟩ := List.mem_map.mp hmember
          exact .inr ⟨q, List.mem_cons_self, k, rfl⟩
        · exact .inl hold
    · exact .inr ⟨r, List.mem_cons_of_mem _ hr, hpath⟩

/-! ## Programs -/

variable {sourceType : String} {xs ys : List Tree}

/-- Where the first part of a program has been visited, nothing of the second has been covered. -/
theorem goesOn_of_reaches {dropped : Nat}
    (h : Reaches ((programOf sourceType xs).places.forM (visitPlace name)) ⟨{}, dropped, []⟩ s) :
    GoesOn xs.length s ⟨{}, dropped, []⟩ s ⟨{}, dropped, []⟩ := by
  refine ⟨(List.append_nil _).symm, rfl, fun p => iff_of_false (fun hp => ?_) List.not_mem_nil⟩
  rcases exists_place_of_covered h hp with hnone | ⟨q, hq, k, hpath⟩
  · cases hnone
  · obtain ⟨i, hi, r, hstep⟩ := exists_item_of_mem_places hq
    rw [hstep, List.cons_append] at hpath
    cases p with
    | nil => cases hpath
    | cons step p =>
      -- The first step of a shifted path goes past the first part.
      have hitem : step.item.map (· + xs.length) = some i := congrArg Step.item (List.cons.inj hpath).1
      obtain ⟨j, -, rfl⟩ := Option.map_eq_some_iff.mp hitem
      omega

/-- To visit the `if` statements of a program is to visit those of the first part, and unless that fails those of the
second. -/
theorem visits_programOf_append (name : String) (sourceType : String) (xs ys : List Tree) (dropped : Nat) :
    let x := visits name (programOf sourceType xs) dropped
    let y := visits name (programOf sourceType ys) dropped
    let z := visits name (programOf sourceType (xs ++ ys)) dropped
    z.1 = x.1.bind (fun _ => y.1) ∧
      (x.1.isOk → z.2.table = x.2.table.append y.2.table ∧ z.2.dropped + dropped = x.2.dropped + y.2.dropped) := by
  intro x y z
  have hz : z = (((programOf sourceType xs).places.forM (visitPlace name) >>= fun _ =>
      ((programOf sourceType ys).places.map fun q => (shiftPath xs.length q.1, q.2)).forM
        (visitPlace name)).run.run ⟨{}, dropped, []⟩) := by
    show ((programOf sourceType (xs ++ ys)).places.forM (visitPlace name)).run.run ⟨{}, dropped, []⟩ = _
    rw [places_programOf_append, List.forM_eq_forM, List.forM_append]
  rw [ExceptT.run_bind, StateT.run_bind] at hz
  cases hresult : ((programOf sourceType xs).places.forM (visitPlace name)).run.run ⟨{}, dropped, []⟩ with
  | mk result s =>
    have hx : x = (result, s) := hresult
    rw [hresult] at hz
    rw [hx]
    cases result with
    | error e =>
      rw [hz]
      exact ⟨rfl, fun hok => by cases hok⟩
    | ok _ =>
      have hplaces : ∀ q ∈ (programOf sourceType ys).places, q.1 ≠ [] := by
        intro q hq
        obtain ⟨i, -, p, hpath⟩ := exists_item_of_mem_places hq
        rw [hpath]
        exact List.cons_ne_nil _ _
      obtain ⟨hsame, hgoes⟩ := (goesOn_of_reaches hresult).visits name hplaces
      rw [hz]
      exact ⟨hsame, fun _ => ⟨congrArg BlockTable.mk hgoes.blocks, hgoes.dropped⟩⟩

/-- A collection that joins those from two other trees: it fails where one of these fails, and else it gives the blocks of
the first and then those of the second, with their places after those of the first, and counts as many branches as dropped
as both. -/
structure Joins (c : BlockCollector) (first second t : Tree) : Prop where
  result : (collect c t).1 = (collect c first).1.bind fun a => (collect c second).1.map a.append
  places : ∀ a b table, (collect c first).1 = .ok a → (collect c second).1 = .ok b → (collect c t).1 = .ok table →
    (∀ i < a.size, table.get? i = a.get? i) ∧
      ∀ i : Nat, table.get? (a.size + i : Nat) = (b.get? i).map fun e => (a.size + e.1, e.2)
  dropped : (collect c first).1.isOk →
    (collect c t).2.dropped + c.dropped = (collect c first).2.dropped + (collect c second).2.dropped

/-- The places follow from the blocks. -/
theorem joins_of_result {c : BlockCollector} {first second t : Tree}
    (hresult : (collect c t).1 = (collect c first).1.bind fun a => (collect c second).1.map a.append)
    (hdropped : (collect c first).1.isOk →
      (collect c t).2.dropped + c.dropped = (collect c first).2.dropped + (collect c second).2.dropped) :
    Joins c first second t := by
  refine ⟨hresult, fun a b table ha hb htable => ?_, hdropped⟩
  rw [ha, hb, htable] at hresult
  obtain rfl : table = a.append b := Except.ok.inj hresult
  exact ⟨fun i => a.get?_append_left b, a.get?_append_right b⟩

/-- The collection from a program joins those from its parts, whether or not they succeed. -/
theorem joins_programOf_append (c : BlockCollector) (sourceType : String) (xs ys : List Tree) :
    Joins c (programOf sourceType xs) (programOf sourceType ys) (programOf sourceType (xs ++ ys)) := by
  by_cases hnothing : c.variableName = none ∨ c.variableName = some ""
  · have hempty := collect_of_nothing hnothing
    exact joins_of_result (by rw [hempty, hempty, hempty]; rfl) fun _ => by rw [hempty, hempty, hempty]
  · obtain ⟨name, hname, hne⟩ := exists_name_of_not_nothing hnothing
    have hcollect := collect_eq_visits hname hne
    obtain ⟨hresult, hboth⟩ := visits_programOf_append name sourceType xs ys c.dropped
    refine joins_of_result ?_ ?_
    · rw [hcollect, hcollect, hcollect]
      show Except.map _ _ = _
      cases hx : (visits name (programOf sourceType xs) c.dropped).1 with
      | error e =>
        rw [hresult, hx]
        rfl
      | ok _ =>
        rw [hresult, hx, (hboth (by rw [hx]; rfl)).1]
        cases (visits name (programOf sourceType ys) c.dropped).1 <;> rfl
    · rw [hcollect, hcollect, hcollect]
      intro hok
      refine (hboth ?_).2
      cases hx : (visits name (programOf sourceType xs) c.dropped).1 with
      | error e =>
        rw [hx] at hok
        cases hok
      | ok _ => rfl

/-- A statement without an equality test of the variable changes no block, wherever it is put in. -/
theorem collect_programOf_insert {z : Tree}
    (hz : ∀ u ∈ z.nodes, ∀ test, SelectorTest.ofTree? u = some test → test.tests (.text name) = false) (dropped : Nat)
    (sourceType : String) (xs ys : List Tree) :
    (collect ⟨some name, dropped⟩ (programOf sourceType (xs ++ z :: ys))).1 =
      (collect ⟨some name, dropped⟩ (programOf sourceType (xs ++ ys))).1 := by
  have hsingle : ∀ u ∈ (programOf sourceType [z]).nodes, ∀ test, SelectorTest.ofTree? u = some test →
      test.tests (.text name) = false := by
    intro u hu test htest
    rw [nodes_programOf] at hu
    rcases List.mem_cons.mp hu with rfl | hu
    · rw [SelectorTest.ofTree?_of_not_binary rfl] at htest
      cases htest
    · obtain ⟨w, hw, hmem⟩ := List.mem_flatMap.mp hu
      obtain rfl := List.mem_singleton.mp (List.mem_filter.mp hw).1
      exact hz u hmem test htest
  obtain ⟨table, dropped', hcollect, hblocks⟩ := collect_of_not_tests hsingle dropped
  have hnothing : table.append = id := funext fun b => by rw [BlockTable.append, hblocks]; rfl
  have hrest : (collect ⟨some name, dropped⟩ (programOf sourceType (z :: ys))).1 =
      (collect ⟨some name, dropped⟩ (programOf sourceType ys)).1 := by
    have hjoins := (joins_programOf_append ⟨some name, dropped⟩ sourceType [z] ys).result
    rw [hcollect] at hjoins
    refine hjoins.trans ?_
    show Except.map table.append _ = _
    rw [hnothing, Except.map_id, id_eq]
  rw [(joins_programOf_append _ _ xs (z :: ys)).result, hrest, (joins_programOf_append _ _ xs ys).result]

end BlockCollector

namespace Normalized

open BlockCollector

variable {sourceType : String} {xs ys : List Tree} {lowerRanges : Bool}

/-- A statement of a program without an equality test of a variable, and without a range test of it that could be lowered,
changes no block that is collected after normalization, wherever it is put in. -/
theorem collect_ofTree_insert {z : Tree} {name : String} (ht : (programOf sourceType (xs ++ z :: ys)).HasDistinctFields)
    (hz : ∀ u ∈ z.nodes, ∀ test, SelectorTest.ofTree? u = some test →
      test.tests (.text name) = false ∧ (lowerRanges → test.name ≠ .text name)) (dropped : Nat) :
    (collect ⟨some name, dropped⟩ (ofTree (programOf sourceType (xs ++ z :: ys)) lowerRanges).tree).1 =
      (collect ⟨some name, dropped⟩ (ofTree (programOf sourceType (xs ++ ys)) lowerRanges).tree).1 := by
  obtain ⟨hx, hzy⟩ := hasDistinctFields_programOf_append_iff.mp ht
  have hzy : (programOf sourceType ([z] ++ ys)).HasDistinctFields := hzy
  obtain ⟨hown, hy⟩ := hasDistinctFields_programOf_append_iff.mp hzy
  have hstatement : ∀ u ∈ (statement lowerRanges z).nodes, ∀ test, SelectorTest.ofTree? u = some test →
      test.tests (.text name) = false := by
    intro u hu test htest
    rw [statement] at hu
    cases hnode : z.isNode with
    | false =>
      rw [hnode, if_neg Bool.false_ne_true] at hu
      exact (hz u hu test htest).1
    | true =>
      have hfields : z.HasDistinctFields :=
        hasDistinctFields_programOf_iff.mp hown z (List.mem_filter.mpr ⟨List.mem_singleton_self z, hnode⟩)
      rw [hnode, if_pos rfl, ← tree_ofTree hfields] at hu
      exact not_tests_of_mem_nodes hfields hz hu htest
  rw [tree_programOf ht, tree_programOf (hasDistinctFields_programOf_append_iff.mpr ⟨hx, hy⟩), List.map_append,
    List.map_append, List.map_cons]
  exact collect_programOf_insert hstatement dropped sourceType _ _

/-- Programs are treated part by part. Of a program whose statements are those of two parts in a row, each part is normalized
as if it stood alone, the counts are the sums, and the passes run to their end if and only if they do so on both parts; the
collection for any variable joins those from the parts, before and after normalization, and it succeeds where all can be
printed. So a statement that does not test a variable can be put in anywhere and changes no block of the variable. -/
theorem program_append (ht : (programOf sourceType (xs ++ ys)).HasDistinctFields) (lowerRanges : Bool) :
    let source := programOf sourceType
    let normal := fun ts => ofTree (source ts) lowerRanges
    (∃ xs' ys', (normal xs).tree = source xs' ∧ (normal ys).tree = source ys' ∧
        (normal (xs ++ ys)).tree = source (xs' ++ ys')) ∧
      (normal (xs ++ ys)).metrics = (normal xs).metrics + (normal ys).metrics ∧
      (halted? (source (xs ++ ys)) lowerRanges = none ↔
        halted? (source xs) lowerRanges = none ∧ halted? (source ys) lowerRanges = none) ∧
      (∀ c, Joins c (source xs) (source ys) (source (xs ++ ys)) ∧
        Joins c (normal xs).tree (normal ys).tree (normal (xs ++ ys)).tree) ∧
      (∀ t ∈ [source (xs ++ ys), (normal (xs ++ ys)).tree], ∀ c,
        (∀ name, c.variableName = some name → IsPrintable name t) → (collect c t).1.isOk) ∧
      ∀ (z : Tree) (name : String), (source (xs ++ z :: ys)).HasDistinctFields → ∀ dropped,
        ((∀ u ∈ z.nodes, ∀ test, SelectorTest.ofTree? u = some test → test.tests (.text name) = false) →
          (collect ⟨some name, dropped⟩ (source (xs ++ z :: ys))).1 =
            (collect ⟨some name, dropped⟩ (source (xs ++ ys))).1) ∧
        ((∀ u ∈ z.nodes, ∀ test, SelectorTest.ofTree? u = some test →
            test.tests (.text name) = false ∧ (lowerRanges → test.name ≠ .text name)) →
          (collect ⟨some name, dropped⟩ (normal (xs ++ z :: ys)).tree).1 =
            (collect ⟨some name, dropped⟩ (normal (xs ++ ys)).tree).1) := by
  intro source normal
  obtain ⟨hx, hy⟩ := hasDistinctFields_programOf_append_iff.mp ht
  have htrees : (normal xs).tree = source (xs.map (statement lowerRanges)) ∧
      (normal ys).tree = source (ys.map (statement lowerRanges)) ∧
      (normal (xs ++ ys)).tree = source (xs.map (statement lowerRanges) ++ ys.map (statement lowerRanges)) :=
    ⟨tree_programOf hx, tree_programOf hy, by rw [← List.map_append]; exact tree_programOf ht⟩
  refine ⟨⟨_, _, htrees⟩, metrics_programOf_append ht, halted?_programOf_append ht, fun c => ⟨?_, ?_⟩,
    fun t _ c => isOk_collect, fun z name hz dropped => ⟨fun hnot => ?_, fun hnot => ?_⟩⟩
  · exact joins_programOf_append c sourceType xs ys
  · rw [htrees.1, htrees.2.1, htrees.2.2]
    exact joins_programOf_append c sourceType _ _
  · exact collect_programOf_insert hnot dropped sourceType xs ys
  · exact collect_ofTree_insert hz hnot dropped

/-- The statement `if (s === 0) { a(); } else if (s === 1) { b(); } else { c(); }`. -/
def guardedPart : Tree :=
  .ifThen (SelectorTest.equals (.text "s") (.int 0)).toTree (blockOf [callOf "a"])
    (.ifThen (SelectorTest.equals (.text "s") (.int 1)).toTree (blockOf [callOf "b"]) (blockOf [callOf "c"]))

/-- The statement `if (s < 5) { d(); }`. -/
def loweredPart : Tree :=
  .ifThen (SelectorTest.toTree ⟨.text "s", SelectorTest.lessThan, .int 5⟩) (blockOf [callOf "d"]) .null

/-- Each part is rewritten by the pass that concerns it, and the blocks of both are collected in order. -/
theorem guardedPart_append_loweredPart :
    (programOf "script" ([guardedPart] ++ [loweredPart])).HasDistinctFields ∧
      (ofTree (programOf "script" [guardedPart, loweredPart]) true).metrics =
        (ofTree (programOf "script" [guardedPart]) true).metrics +
          (ofTree (programOf "script" [loweredPart]) true).metrics ∧
      ∃ table, (collect ⟨some "s", 0⟩ (ofTree (programOf "script" [guardedPart, loweredPart]) true).tree).1 = .ok table ∧
        table.blocks.map LeafBlock.value = [.int 0, .int 1, .int 2, .int 4] := by
  have ht : (programOf "script" ([guardedPart] ++ [loweredPart])).HasDistinctFields := by decide +kernel
  obtain ⟨-, hmetrics, -, hjoins, -, -⟩ := program_append ht true
  have hread : ∀ {e : Except Script.Error BlockTable} {values : List Scalar},
      (e.toOption.map fun table => table.blocks.map LeafBlock.value) = some values →
        ∃ table, e = .ok table ∧ table.blocks.map LeafBlock.value = values := by
    intro e values h
    cases e with
    | ok table => exact ⟨table, rfl, Option.some.inj h⟩
    | error _ => cases h
  obtain ⟨a, hfirst, ha⟩ := hread (show ((collect ⟨some "s", 0⟩
    (ofTree (programOf "script" [guardedPart]) true).tree).1.toOption.map fun table =>
      table.blocks.map LeafBlock.value) = some [.int 0, .int 1, .int 2] by decide +kernel)
  obtain ⟨b, hsecond, hb⟩ := hread (show ((collect ⟨some "s", 0⟩
    (ofTree (programOf "script" [loweredPart]) true).tree).1.toOption.map fun table =>
      table.blocks.map LeafBlock.value) = some [.int 4] by decide +kernel)
  have hresult := (hjoins ⟨some "s", 0⟩).2.result
  rw [hfirst, hsecond] at hresult
  exact ⟨ht, hmetrics, a.append b, hresult, by rw [BlockTable.append, List.map_append, ha, hb]; rfl⟩

end Normalized
end Deflatten
