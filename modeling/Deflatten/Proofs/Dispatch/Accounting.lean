import Deflatten.Proofs.Dispatch.Effects
import Deflatten.Proofs.Dispatch.EntryOrder
import Mathlib.Algebra.GroupWithZero.Nat
import Mathlib.Data.List.TakeWhile
/-!
# Every branch is accounted for

A branch that is taken is either added or counted as dropped: each member of a chain from its first bottom-level member on,
and the final `else` if one of these members tests the variable. So what a collection adds and what it drops sum to a number
that is read off the tree (`BlockCollector.size_add_droppedFrom`). The invariant is that of the visits so far: together they
have added and dropped as many branches as the chains of the starts visited have, and no `if` statement has been covered
twice. How many branches were dropped before a collection changes nothing else about it
(`BlockCollector.run_visits_addDropped`).
-/

namespace Deflatten

namespace Tree

variable {t : Tree} {head q : List Step × Tree}

/-! ## Examined members -/

/-- The members of the chain at a place from the first bottom-level one on, each with the path to it. -/
def examinedMembers (head : List Step × Tree) : List (List Step × Tree) :=
  (memberPlaces head).dropWhile fun m => !m.2.isBottomLevel

/-- Whether the `if` statement at a path comes at or after the first bottom-level member of its chain. -/
def isExamined (t : Tree) (p : List Step) : Bool :=
  (t.headPlaces false).any fun head => ((examinedMembers head).map Prod.fst).contains p

/-- The first of the examined members is the first bottom-level member of the chain. -/
theorem firstBottomLevel?_eq_head? (head : List Step × Tree) :
    firstBottomLevel? head = (examinedMembers head).head?.map Prod.fst := by
  rw [firstBottomLevel?, examinedMembers, ← List.find?_eq_head?_dropWhile_not, memberPlaces, List.find?_map, Option.map_map,
    List.findIdx?_eq_fst_find?_zipIdx, Option.map_map]
  rfl

/-- From a member on, the members are those of the chain at its place. -/
theorem memberPlaces_of_getElem? {k : Nat} (h : (memberPlaces head)[k]? = some q) :
    memberPlaces q = (memberPlaces head).drop k ∧ q.2.finalElse = head.2.finalElse := by
  rw [getElem?_memberPlaces] at h
  obtain ⟨u, hmember, rfl⟩ := Option.map_eq_some_iff.mp h
  refine ⟨List.ext_getElem? fun i => ?_, finalElse_of_getElem? hmember⟩
  rw [List.getElem?_drop, getElem?_memberPlaces, getElem?_memberPlaces, chain_of_getElem? hmember, List.getElem?_drop]
  simp only [List.append_assoc, chainPath_append]

/-- The chain of the first of the examined members consists of all of these, and ends in the same `else` part. -/
theorem memberPlaces_of_head? (h : (examinedMembers head).head? = some q) :
    memberPlaces q = examinedMembers head ∧ q.2.finalElse = head.2.finalElse := by
  obtain ⟨before, hsplit⟩ : examinedMembers head <:+ memberPlaces head := List.dropWhile_suffix _
  have hfound : (memberPlaces head)[before.length]? = some q := by
    rw [← hsplit, List.getElem?_append_right (Nat.le_refl _), Nat.sub_self, ← List.head?_eq_getElem?, h]
  obtain ⟨hmembers, helse⟩ := memberPlaces_of_getElem? hfound
  refine ⟨?_, helse⟩
  rw [hmembers, ← hsplit, List.drop_left]

variable (ht : t.HasDistinctFields) (hs : t.HasSingleAlternates)

include ht hs in
theorem mem_places_of_mem_examinedMembers (hhead : head ∈ t.headPlaces false) (h : q ∈ examinedMembers head) :
    q ∈ t.places :=
  (places_perm_members ht hs).mem_iff.mpr (List.mem_flatMap.mpr ⟨head, hhead, (List.dropWhile_sublist _).subset h⟩)

include ht hs in
/-- The starts are the first of the examined members of the chains. -/
theorem starts_perm : t.starts.Perm ((t.headPlaces false).filterMap fun head => (examinedMembers head).head?) := by
  have hpaths : ((t.headPlaces false).filterMap fun head => (examinedMembers head).head?).map Prod.fst =
      (t.headPlaces false).filterMap firstBottomLevel? := by
    rw [List.map_filterMap]
    exact List.filterMap_congr fun head _ => (firstBottomLevel?_eq_head? head).symm
  have hnodup : ((t.headPlaces false).filterMap fun head => (examinedMembers head).head?).Nodup := by
    refine List.Nodup.of_map Prod.fst ?_
    rw [hpaths]
    exact (BlockCollector.firstBottomLevels_perm ht hs).nodup_iff.mp (nodup_paths_firstBottomLevels ht)
  rw [starts_eq_firstBottomLevels ht hs]
  refine (List.perm_ext_iff_of_nodup ((nodup_paths_firstBottomLevels ht).of_map Prod.fst) hnodup).mpr fun q => ?_
  -- A place and a first member are one if their paths are.
  have hplace : ∀ r ∈ (t.headPlaces false).filterMap fun head => (examinedMembers head).head?, r ∈ t.places := by
    intro r hr
    obtain ⟨head, hhead, hfirst⟩ := List.mem_filterMap.mp hr
    exact mem_places_of_mem_examinedMembers ht hs hhead (List.mem_of_mem_head? hfirst)
  rw [firstBottomLevels, List.mem_filter, isFirstBottomLevel, List.contains_iff_mem, ← hpaths]
  constructor
  · rintro ⟨hq, hmem⟩
    obtain ⟨r, hr, hpath⟩ := List.mem_map.mp hmem
    exact eq_of_mem_places ht (hplace r hr) hq hpath ▸ hr
  · intro hq
    exact ⟨hplace q hq, List.mem_map_of_mem hq⟩

include ht hs in
/-- The members of the chains at the starts are the examined members of the chains. -/
theorem flatMap_starts_perm :
    (t.starts.flatMap memberPlaces).Perm ((t.headPlaces false).flatMap examinedMembers) := by
  have hheads : ((t.headPlaces false).filterMap fun head => (examinedMembers head).head?).flatMap memberPlaces =
      (t.headPlaces false).flatMap examinedMembers := by
    induction t.headPlaces false with
    | nil => rfl
    | cons head heads ih =>
      rw [List.flatMap_cons, ← ih]
      cases hfirst : (examinedMembers head).head? with
      | none =>
        rw [List.filterMap_cons, hfirst, List.head?_eq_none_iff.mp hfirst]
        rfl
      | some q =>
        rw [List.filterMap_cons, hfirst, ← (memberPlaces_of_head? hfirst).1]
        rfl
  exact hheads ▸ (starts_perm ht hs).flatMap_right memberPlaces

theorem takenPaths_eq (t : Tree) : t.takenPaths = (t.starts.flatMap memberPlaces).map Prod.fst := by
  rw [takenPaths, List.map_flatMap]

include ht hs in
/-- The `if` statements of a tree that are examined are the examined members of its chains. -/
theorem filter_isExamined_perm :
    (t.places.filter fun q => t.isExamined q.1).Perm ((t.headPlaces false).flatMap examinedMembers) := by
  have hnodup : ((t.headPlaces false).flatMap examinedMembers).Nodup := by
    rw [← (flatMap_starts_perm ht hs).nodup_iff]
    exact List.Nodup.of_map Prod.fst (takenPaths_eq t ▸ nodup_takenPaths ht)
  refine (List.perm_ext_iff_of_nodup ((nodup_places ht).filter _) hnodup).mpr fun q => ?_
  rw [List.mem_filter, List.mem_flatMap, isExamined, List.any_eq_true]
  constructor
  · rintro ⟨hq, head, hhead, hpath⟩
    obtain ⟨m, hm, hmpath⟩ := List.mem_map.mp (List.contains_iff_mem.mp hpath)
    have hplace := mem_places_of_mem_examinedMembers ht hs hhead hm
    exact ⟨head, hhead, eq_of_mem_places ht hplace hq hmpath ▸ hm⟩
  · rintro ⟨head, hhead, hmem⟩
    exact ⟨mem_places_of_mem_examinedMembers ht hs hhead hmem, head, hhead,
      List.contains_iff_mem.mpr (List.mem_map_of_mem hmem)⟩

end Tree

namespace BlockCollector

open Deflatten.Tree

variable {name : String} {t : Tree} {s s' : Progress}

/-! ## What a step accounts for -/

/-- How many branches a collection has added or dropped so far. -/
def Progress.accounted (s : Progress) : Nat := s.table.size + s.dropped

/-- Whether the final `else` of a chain is taken: it is a block, and some member tests the variable. -/
def takesElse (name : String) (t : Tree) : Bool :=
  t.finalElse.isBlock && t.chain.any fun branch => (branchTest? name branch).isSome

/-- Whether the final `else` of the chain at a place is examined: it is a block, and some examined member tests the
variable. -/
def elseIsExamined (name : String) (head : TreePath × Tree) : Bool :=
  head.2.finalElse.isBlock && (examinedMembers head).any fun m => (branchTest? name m.2).isSome

theorem accounted_of_keepOrDrop {condition : String} {value : Scalar} {body : List Tree}
    (h : Reaches (keepOrDrop condition value body) s s') : s'.accounted = s.accounted + 1 := by
  obtain ⟨code, -, ⟨-, rfl⟩ | ⟨-, -, rfl⟩⟩ := keepOrDrop_cases h
  · exact (Nat.add_assoc ..).symm
  · rw [Progress.accounted, BlockTable.size_push]
    exact Nat.add_right_comm ..

theorem accounted_of_takeBranch {branch : Tree} (h : Reaches (takeBranch name branch) s s') :
    s'.accounted = s.accounted + 1 := by
  rw [takeBranch] at h
  cases htest : branchTest? name branch with
  | none =>
    rw [htest] at h
    rw [h.eq (reaches_drop s)]
    exact (Nat.add_assoc ..).symm
  | some test =>
    rw [htest] at h
    exact accounted_of_keepOrDrop h

theorem accounted_of_takeBranches {members : List Tree} (h : Reaches (members.forM (takeBranch name)) s s') :
    s'.accounted = s.accounted + members.length := by
  induction members generalizing s with
  | nil =>
    rw [h.eq (reaches_pure s)]
    rfl
  | cons member members ih =>
    obtain ⟨s₁, hfirst, hrest⟩ := h.exists_of_cons
    rw [ih hrest, accounted_of_takeBranch hfirst, List.length_cons, Nat.add_assoc, Nat.add_comm 1]

/-- To take a chain accounts for its members, and for its final `else` if that is taken. -/
theorem accounted_of_takeChain (h : Reaches (takeChain name t) s s') :
    s'.accounted = s.accounted + t.chain.length + if takesElse name t then 1 else 0 := by
  obtain ⟨s₁, hmembers, hlast⟩ := h.exists_of_bind
  rw [← accounted_of_takeBranches hmembers]
  rw [← finalElse, blockBody?] at hlast
  rw [takesElse]
  cases hblock : t.finalElse.isBlock with
  | false =>
    rw [hblock] at hlast
    rw [hlast.eq (reaches_pure s₁)]
    rfl
  | true =>
    rw [hblock] at hlast
    cases hany : t.chain.any fun branch => (branchTest? name branch).isSome with
    | false =>
      rw [hany] at hlast
      rw [hlast.eq (reaches_pure s₁)]
      rfl
    | true =>
      rw [hany] at hlast
      exact accounted_of_keepOrDrop hlast

/-! ## What a collection accounts for -/

variable (ht : t.HasDistinctFields)

include ht in
/-- The visits of the remaining places account for the chains of the starts among them, and cover their members. -/
theorem HasVisited.accounted {before after : List (List Step × Tree)} (hsplit : t.places = before ++ after)
    (hbefore : HasVisited name t before s) (h : Reaches (after.forM (visitPlace name)) s s') :
    s'.accounted = s.accounted + ((after.filter fun q => t.IsStart q).flatMap memberPlaces).length +
        (after.filter fun q => t.IsStart q).countP (fun q => takesElse name q.2) ∧
      s'.covered.Perm (((after.filter fun q => t.IsStart q).flatMap memberPlaces).map Prod.fst ++ s.covered) := by
  -- Induction on the places that remain; a place that is no start is passed by.
  induction after generalizing before s with
  | nil =>
    rw [h.eq (reaches_pure s)]
    exact ⟨rfl, .refl _⟩
  | cons q after ih =>
    obtain ⟨s₁, hvisit, hrest⟩ := h.exists_of_cons
    obtain ⟨hcount, hcovered⟩ := ih (by rw [hsplit, List.append_assoc]; rfl) (hbefore.visit ht hsplit hvisit) hrest
    rcases hbefore.visit_cases ht hsplit hvisit with ⟨hstart, s₂, hchain, rfl⟩ | ⟨hstart, rfl⟩
    · have hfilter : (q :: after).filter (fun q => t.IsStart q) = q :: after.filter fun q => t.IsStart q := by
        rw [List.filter_cons, decide_eq_true hstart, if_pos rfl]
      have hmembers : (memberPlaces q).length = q.2.chain.length := by
        rw [memberPlaces, List.length_map, List.length_zipIdx]
      rw [hfilter, List.flatMap_cons, List.countP_cons, List.length_append, hmembers, List.map_append]
      refine ⟨?_, ?_⟩
      · have htaken : s'.accounted = s₂.accounted + _ + _ := hcount
        rw [htaken, accounted_of_takeChain hchain]
        omega
      · rw [(blocks_of_takeChain hchain).1, ← map_fst_memberPlaces, ← List.append_assoc] at hcovered
        exact hcovered.trans (List.perm_append_comm.append_right _)
    · rw [List.filter_cons, decide_eq_false hstart, if_neg Bool.false_ne_true]
      exact ⟨hcount, hcovered⟩

variable (hs : t.HasSingleAlternates)

include ht hs in
/-- The chains from the starts on have the `else` parts that are examined. -/
theorem countP_takesElse :
    t.starts.countP (fun q => takesElse name q.2) = (t.headPlaces false).countP (elseIsExamined name) := by
  rw [(starts_perm ht hs).countP_eq, List.countP_filterMap]
  refine List.countP_congr fun head _ => ?_
  rw [elseIsExamined]
  cases hfirst : (examinedMembers head).head? with
  | none => rw [List.head?_eq_none_iff.mp hfirst, List.any_nil, Bool.and_false, Option.map_none, Option.getD_none]
  | some q =>
    obtain ⟨hmembers, helse⟩ := memberPlaces_of_head? hfirst
    rw [Option.map_some, Option.getD_some, takesElse, helse, ← map_snd_memberPlaces, hmembers, List.any_map]
    rfl

include ht hs in
/-- What a collection has added and dropped are the `if` statements that are examined and the `else` parts that are. -/
theorem accounted_of_visits {dropped : Nat} (h : Reaches (t.places.forM (visitPlace name)) ⟨{}, dropped, []⟩ s) :
    s.accounted = dropped + (t.places.countP fun q => t.isExamined q.1) +
        (t.headPlaces false).countP (elseIsExamined name) ∧
      s.covered.Perm ((t.places.filter fun q => t.isExamined q.1).map Prod.fst) := by
  obtain ⟨hcount, hcovered⟩ := (HasVisited.nothing name t dropped).accounted ht rfl h
  have hnothing : Progress.accounted ⟨{}, dropped, []⟩ = dropped := Nat.zero_add dropped
  have hexamined := (flatMap_starts_perm ht hs).trans (filter_isExamined_perm ht hs).symm
  rw [← starts, hnothing, hexamined.length_eq, ← List.countP_eq_length_filter, countP_takesElse ht hs] at hcount
  rw [← starts, List.append_nil] at hcovered
  exact ⟨hcount, hcovered.trans (hexamined.map Prod.fst)⟩

/-! ## Repeated collections -/

/-- The same state of a collection, with more branches dropped before. -/
def Progress.addDropped (d : Nat) (s : Progress) : Progress := { s with dropped := d + s.dropped }

/-- A visit does not depend on how many branches were dropped before, and no more do the visits of several places. -/
theorem run_visits_addDropped (name : String) (qs : List (TreePath × Tree)) (d : Nat) (s : Progress) :
    (qs.forM (visitPlace name)).run.run (s.addDropped d) =
      (((qs.forM (visitPlace name)).run.run s).1, ((qs.forM (visitPlace name)).run.run s).2.addDropped d) := by
  induction qs generalizing s with
  | nil => rfl
  | cons q qs ih =>
    obtain ⟨r, blocks, k, hrun⟩ := exists_run_visitPlace name q.2
    have hvisit : (visitPlace name q).run.run (s.addDropped d) =
        (((visitPlace name q).run.run s).1, ((visitPlace name q).run.run s).2.addDropped d) := by
      rw [hrun, hrun, Progress.addDropped]
      split
      · rfl
      · rw [Nat.add_assoc]
        rfl
    have hcons : (q :: qs).forM (visitPlace name) = visitPlace name q >>= fun _ => qs.forM (visitPlace name) := rfl
    rw [hcons, ExceptT.run_bind, StateT.run_bind, StateT.run_bind, hvisit]
    cases (visitPlace name q).run.run s with
    | mk result s₁ =>
      cases result with
      | ok _ => exact ih s₁
      | error e => rfl

/-- How many branches are dropped when the blocks of a tree are collected. -/
def droppedFrom (name : String) (t : Tree) : Nat := (collect ⟨some name, 0⟩ t).2.dropped

/-- A collection drops the branches that it would drop if none had been dropped before. -/
theorem collect_eq_droppedFrom (hname : name ≠ "") (t : Tree) (dropped : Nat) :
    collect ⟨some name, dropped⟩ t = ((collect ⟨some name, 0⟩ t).1, ⟨some name, dropped + droppedFrom name t⟩) := by
  have hvisits : visits name t dropped = ((visits name t 0).1, (visits name t 0).2.addDropped dropped) :=
    run_visits_addDropped name t.places dropped ⟨{}, 0, []⟩
  rw [droppedFrom, collect_eq_visits rfl hname, collect_eq_visits rfl hname, hvisits]
  rfl

/-- What is dropped in one collection after another adds up. -/
theorem dropped_foldl_collect (hname : name ≠ "") (ts : List Tree) (dropped : Nat) :
    ts.foldl (fun c u => (collect c u).2) ⟨some name, dropped⟩ =
      ⟨some name, dropped + (ts.map (droppedFrom name)).sum⟩ := by
  induction ts generalizing dropped with
  | nil => rfl
  | cons u ts ih => rw [List.foldl_cons, collect_eq_droppedFrom hname, ih, List.map_cons, List.sum_cons, Nat.add_assoc]

include ht hs in
/-- Every branch that a collection examines is added or counted as dropped. What it adds and drops are the `if` statements
at or after the first bottom-level member of their chains, and the final blocks of those chains in which such a member tests
the variable. No `if` statement is covered twice, and in one collection after another the numbers of dropped branches add
up. -/
theorem size_add_droppedFrom (hprint : IsPrintable name t) (hname : name ≠ "") :
    (∃ table, (∀ dropped, collect ⟨some name, dropped⟩ t = (.ok table, ⟨some name, dropped + droppedFrom name t⟩)) ∧
        table.size + droppedFrom name t =
          (t.places.countP fun q => t.isExamined q.1) + (t.headPlaces false).countP (elseIsExamined name)) ∧
      (∀ dropped, (visits name t dropped).2.covered.Nodup ∧
        (visits name t dropped).2.covered.Perm ((t.places.filter fun q => t.isExamined q.1).map Prod.fst)) ∧
      ∀ (ts : List Tree) (dropped : Nat), ts.foldl (fun c u => (collect c u).2) ⟨some name, dropped⟩ =
        ⟨some name, dropped + (ts.map (droppedFrom name)).sum⟩ := by
  refine ⟨?_, fun dropped => ?_, dropped_foldl_collect hname⟩
  · obtain ⟨s, hreaches⟩ := exists_reaches_places hprint (List.Subset.refl _) ⟨{}, 0, []⟩
    have hcollect := collect_of_reaches hname hreaches
    have hdropped : droppedFrom name t = s.dropped := by rw [droppedFrom, hcollect]
    refine ⟨s.table, fun dropped => by rw [collect_eq_droppedFrom hname, hcollect], ?_⟩
    rw [hdropped, ← Progress.accounted, (accounted_of_visits ht hs hreaches).1, Nat.zero_add]
  · obtain ⟨s, hreaches⟩ := exists_reaches_places hprint (List.Subset.refl _) ⟨{}, dropped, []⟩
    have hcovered := (accounted_of_visits ht hs hreaches).2
    have hvisits : (visits name t dropped).2 = s := congrArg Prod.snd hreaches
    rw [hvisits]
    exact ⟨hcovered.nodup_iff.mpr ((nodup_paths_places ht).sublist (List.filter_sublist.map Prod.fst)), hcovered⟩

/-- The script `if (s === 0) { if (s === 1) { a(); } } else if (s === 2) { } else if (s < 4) { b(); } else { }`. -/
def emptyBranches : Tree :=
  scriptOf [.ifThen (SelectorTest.equals (.text "s") (.int 0)).toTree
    (blockOf [.ifThen (SelectorTest.equals (.text "s") (.int 1)).toTree (blockOf [callOf "a"]) .null])
    (.ifThen (SelectorTest.equals (.text "s") (.int 2)).toTree (blockOf [])
      (.ifThen (SelectorTest.toTree ⟨.text "s", SelectorTest.lessThan, .int 4⟩) (blockOf [callOf "b"]) (blockOf [])))]

/-- Of the three `if` statements and the `else` that are examined, the inner one is added. The outermost is not examined. -/
theorem size_emptyBranches :
    "s" ≠ "" ∧ emptyBranches.HasDistinctFields ∧ emptyBranches.HasSingleAlternates ∧ IsPrintable "s" emptyBranches ∧
      emptyBranches.places.length = 4 ∧ (emptyBranches.places.countP fun q => emptyBranches.isExamined q.1) = 3 ∧
      ∃ table, collect ⟨some "s", 2⟩ emptyBranches = (.ok table, ⟨some "s", 2 + 3⟩) ∧ table.size = 1 := by
  have hname : "s" ≠ "" := by decide
  have hfields : emptyBranches.HasDistinctFields := by decide +kernel
  have hsingle : emptyBranches.HasSingleAlternates := by decide +kernel
  have hprint : IsPrintable "s" emptyBranches := by decide +kernel
  have hexamined : (emptyBranches.places.countP fun q => emptyBranches.isExamined q.1) = 3 := by decide +kernel
  have helse : (emptyBranches.headPlaces false).countP (elseIsExamined "s") = 1 := by decide +kernel
  have hdropped : droppedFrom "s" emptyBranches = 3 := by decide +kernel
  obtain ⟨⟨table, hcollect, hsize⟩, -⟩ := size_add_droppedFrom hfields hsingle hprint hname
  rw [hdropped, hexamined, helse] at hsize
  exact ⟨hname, hfields, hsingle, hprint, by decide +kernel, hexamined, table, hdropped ▸ hcollect 2, by omega⟩

end BlockCollector
end Deflatten
