import Deflatten.Proofs.Normalization.AllAtOnce
import Deflatten.Proofs.Tree.Edits
import Mathlib.Algebra.GroupWithZero.Nat
import Mathlib.Logic.Function.Iterate
/-!
# Lowering range tests in place

Range tests can be lowered in one sweep over a tree that changes the tree while it goes: every node is rewritten in its
place when it is visited, and its children are put on the stack of visits only then, as they are after the rewrite. The
sweep ends with the tree in which all range tests are lowered at once, and has counted them (`RangeTest.sweep_lowers`).
This is the sweep that goes to its end, as it does if every test that it comes to can be written
(`RangeTest.halted?_eq_none_iff`).
-/

namespace Deflatten

namespace Tree

variable {t u : Tree} {p : TreePath} {c : Step × Tree}

/-! ## Places that can be filled -/

/-- Whatever is put at a place is found there. -/
def HasPlace (t : Tree) (p : TreePath) : Prop := ∀ part, (t.modifyAt (fun _ => part) p).at? p = some part

theorem hasPlace_nil (t : Tree) : t.HasPlace [] := fun _ => rfl

/-- To put something in the place of a child is to put another node in the place of the parent. -/
theorem modifyAt_child (hfs : (u.fields.map Prod.fst).Nodup) (hc : c ∈ u.children) (part : Tree) :
    (t.modifyAt (fun _ => u) p).modifyAt (fun _ => part) (p ++ [c.1]) =
      t.modifyAt (fun _ => u.setStep c.1 part) p := by
  have hstep : u.step? c.1 = some c.2 := step?_of_mem_children hfs hc
  rw [modifyAt_append, modifyAt_modifyAt]
  simp only [modifyAt, hstep]

theorem HasPlace.child (h : t.HasPlace p) (hu : u.isNode) (hfs : (u.fields.map Prod.fst).Nodup) (hc : c ∈ u.children) :
    (t.modifyAt (fun _ => u) p).HasPlace (p ++ [c.1]) := by
  intro part
  have hstep : u.step? c.1 = some c.2 := step?_of_mem_children hfs hc
  rw [modifyAt_child hfs hc, at?_append, h, Option.bind_some, at?, step?_setStep_of_isNode hu hstep]
  rfl

end Tree

namespace RangeTest

open Deflatten.Tree

variable {t u v : Tree} {own : Option SelectorTest}

/-! ## A node that is rewritten -/

theorem map_fst_fields_write (u : Tree) : (write (lowered? u) u).fields.map Prod.fst = u.fields.map Prod.fst := by
  cases h : lowered? u with
  | none => rfl
  | some test =>
    obtain ⟨hop, hright⟩ := fields_of_lowered? h
    rw [write, map_fst_fields_set _ (by rwa [map_fst_fields_set _ hop]), map_fst_fields_set _ hop]

theorem isNode_write (own : Option SelectorTest) (u : Tree) : (write own u).isNode = u.isNode := by
  cases own <;> cases u <;> rfl

/-- Lowering a node is rewriting it and then lowering its children. -/
theorem lower_eq_mapChildren_write (hnode : u.isNode) (hfs : (u.fields.map Prod.fst).Nodup) :
    lower u = (write (lowered? u) u).mapChildren fun _ c => lower c := by
  rw [lower_eq_write hnode hfs]
  cases lowered? u with
  | none => rfl
  | some test =>
    rw [write, write, mapChildren_set _ _ rfl, mapChildren_set _ _ rfl]
    rfl

/-- What stands in the place of a child of a node when the node itself has been rewritten. -/
def writtenChild (own : Option SelectorTest) (s : Step) (c : Tree) : Tree :=
  match own with
  | some test => if s = ⟨"right", none⟩ then .number test.value else c
  | none => c

theorem children_write (hfs : (u.fields.map Prod.fst).Nodup) :
    (write (lowered? u) u).children = u.children.map fun c => (c.1, writtenChild (lowered? u) c.1 c.2) := by
  cases h : lowered? u with
  | none => exact (List.map_id' _).symm
  | some test =>
    obtain ⟨range, hrange, -⟩ := lowered?_eq_some_iff.mp h
    obtain ⟨htag, hop, -, hvalue, -⟩ := SelectorTest.ofTree?_eq_some hrange
    -- The operator is no child, so another one leaves the children.
    have hoperator : (u.set "operator" (.text test.operator)).children = u.children := by
      refine children_set rfl fun old hold => ?_
      rw [operator?, get_of_field? (lookup_of_mem hfs hold)] at hop
      cases old with
      | scalar _ => rfl
      | _ => contradiction
    have hfs' : ((u.set "operator" (.text test.operator)).fields.map Prod.fst).Nodup := by
      rwa [map_fst_fields_set _ (fields_of_lowered? h).1]
    have hright : (⟨"right", none⟩, u.get "right") ∈ (u.set "operator" (.text test.operator)).children := by
      rw [hoperator]
      exact get_mem_children (isNode_of_hasTag htag) rfl (isNode_of_hasTag (hasTag_of_number? hvalue))
    have hset := setStep_mapChildren (f := fun _ c => c) (g := writtenChild (some test)) hfs' hright fun s hs => by
      funext c
      rw [writtenChild, if_neg hs]
    rw [mapChildren_eq_self fun _ _ => rfl] at hset
    have hkeep : ∀ s c, c.isNode → (writtenChild (some test) s c).isNode := by
      intro s c hc
      rw [writtenChild]
      split
      · rfl
      · exact hc
    have hwrite : write (some test) u = (u.set "operator" (.text test.operator)).mapChildren (writtenChild (some test)) :=
      hset
    rw [hwrite, children_mapChildren hkeep, hoperator]

/-- A child stays, unless a new literal stands in the place of another. -/
theorem writtenChild_eq {c : Step × Tree} (hfs : (u.fields.map Prod.fst).Nodup) (hc : c ∈ u.children) :
    writtenChild (lowered? u) c.1 c.2 = c.2 ∨
      c.2.hasTag Tag.literal ∧ ∃ n, writtenChild (lowered? u) c.1 c.2 = .number n := by
  cases h : lowered? u with
  | none => exact .inl rfl
  | some test =>
    rw [writtenChild]
    split
    · rename_i hs
      exact .inr ⟨hasTag_of_lowered? hfs hc h hs, _, rfl⟩
    · exact .inl rfl

theorem count_number (n : Number) : count (.number n) = 0 := rfl

/-- What is lowered in a node is itself, if it is a range test, and what is lowered in its children once it is
rewritten. -/
theorem count_eq_write (hnode : u.isNode) (ht : u.HasDistinctFields) (hl : u.HasPlainLiterals) :
    count u = (if (lowered? u).isSome then 1 else 0) + ((write (lowered? u) u).children.map fun c => count c.2).sum := by
  have hchildren : ∀ c ∈ u.children, c.2.nodes.countP isLowerable = count (writtenChild (lowered? u) c.1 c.2) := by
    intro c hc
    rcases writtenChild_eq ht.self hc with hsame | ⟨hlit, n, hnew⟩
    · rw [hsame, count_eq (isNode_of_mem_children hc) (ht.child hc) (hl.child hc)]
    · -- No range test stands in a literal.
      rw [hnew, count_number, nodes_of_no_children (hl.child hc c.2 (mem_nodes_self _) hlit), List.countP_singleton,
        isLowerable_of_not_binary (hasTag_of_ne hlit (by decide)), if_neg Bool.false_ne_true]
  rw [count_eq hnode ht hl, countP_nodes, List.countP_flatMap, isSome_lowered?, Nat.add_comm, children_write ht.self,
    List.map_map]
  congr 2
  exact List.map_congr_left hchildren

/-! ## The sweep -/

/-- A sweep under way: the tree as it is by now, the paths to the nodes still to be visited, and how many range tests
have been lowered. -/
structure Sweep where
  tree : Tree
  pending : List TreePath
  lowered : Nat

namespace Sweep

/-- A sweep before the first visit. -/
def start (t : Tree) : Sweep := ⟨t, [[]], 0⟩

/-- Visits the next node: it is rewritten in its place if it is a range test, and then its children are to be visited.
-/
def step (s : Sweep) : Sweep :=
  match s.pending with
  | [] => s
  | p :: rest =>
    match s.tree.at? p with
    | none => { s with pending := rest }
    | some u =>
      let v := write (lowered? u) u
      { tree := s.tree.modifyAt (fun _ => v) p
        pending := v.children.map (fun c => p ++ [c.1]) ++ rest
        lowered := s.lowered + if (lowered? u).isSome then 1 else 0 }

variable {p : TreePath} {rest : List TreePath} {k : Nat}

theorem step_of_hasPlace (ht : t.HasPlace p) (u : Tree) :
    step ⟨t.modifyAt (fun _ => u) p, p :: rest, k⟩ =
      { tree := t.modifyAt (fun _ => write (lowered? u) u) p
        pending := (write (lowered? u) u).children.map (fun c => p ++ [c.1]) ++ rest
        lowered := k + if (lowered? u).isSome then 1 else 0 } := by
  simp only [step, ht u, modifyAt_modifyAt]

/-- The visits of a sweep to the nodes of a tree, wherever it stands, lower the tree and add to the count what is
lowered in it. -/
def Lowers (u : Tree) : Prop :=
  ∀ (t : Tree) (p : TreePath) (rest : List TreePath) (k : Nat), t.HasPlace p →
    step^[(lower u).nodes.length] ⟨t.modifyAt (fun _ => u) p, p :: rest, k⟩ =
      ⟨t.modifyAt (fun _ => lower u) p, rest, k + count u⟩

/-- Lowers the children at some steps. -/
def lowerThose (done : List (Step × Tree)) (s : Step) (c : Tree) : Tree := if s ∈ done.map Prod.fst then lower c else c

/-- The visits to the nodes below the children of a node, the first of which have been visited already. -/
theorem iterate_children (rest : List TreePath) (k : Nat) (hv : v.isNode) (hfs : (v.fields.map Prod.fst).Nodup)
    (hchildren : ∀ c ∈ v.children, Lowers c.2) (ht : t.HasPlace p) {done cs : List (Step × Tree)}
    (hsplit : done ++ cs = v.children) :
    step^[(cs.map fun c => (lower c.2).nodes.length).sum]
        ⟨t.modifyAt (fun _ => v.mapChildren (lowerThose done)) p, cs.map (fun c => p ++ [c.1]) ++ rest, k⟩ =
      ⟨t.modifyAt (fun _ => v.mapChildren fun _ c => lower c) p, rest, k + (cs.map fun c => count c.2).sum⟩ := by
  induction cs generalizing done k with
  | nil =>
    have hall : v.mapChildren (lowerThose done) = v.mapChildren fun _ c => lower c := by
      refine mapChildren_congr fun c hc => if_pos ?_
      rw [← hsplit, List.append_nil] at hc
      exact List.mem_map_of_mem hc
    rw [hall]
    rfl
  | cons c cs ih =>
    have hc : c ∈ v.children := by
      rw [← hsplit]
      exact List.mem_append_right _ List.mem_cons_self
    have hnew : c.1 ∉ done.map Prod.fst := by
      have hnodup := nodup_steps_children hfs
      rw [← hsplit, List.map_append, List.map_cons] at hnodup
      exact fun hmem => List.disjoint_of_nodup_append hnodup hmem List.mem_cons_self
    have hkeep : ∀ s d, d.isNode → (lowerThose done s d).isNode := by
      intro s d hd
      rw [lowerThose]
      split
      · rwa [isNode_lower]
      · exact hd
    -- The node as it is when its child is visited.
    have hnode : (v.mapChildren (lowerThose done)).isNode := by simpa [isNode] using hv
    have hfs' : ((v.mapChildren (lowerThose done)).fields.map Prod.fst).Nodup := by rwa [map_fst_fields_mapChildren]
    have hmem : c ∈ (v.mapChildren (lowerThose done)).children := by
      rw [children_mapChildren hkeep]
      exact List.mem_map.mpr ⟨c, hc, by rw [lowerThose, if_neg hnew]⟩
    have hself : t.modifyAt (fun _ => v.mapChildren (lowerThose done)) p =
        (t.modifyAt (fun _ => v.mapChildren (lowerThose done)) p).modifyAt (fun _ => c.2) (p ++ [c.1]) := by
      rw [modifyAt_child hfs' hmem, setStep_eq_self (step?_of_mem_children hfs' hmem)]
    have hset : (v.mapChildren (lowerThose done)).setStep c.1 (lower c.2) = v.mapChildren (lowerThose (done ++ [c])) := by
      have hlast : lowerThose (done ++ [c]) c.1 c.2 = lower c.2 := if_pos (by simp)
      rw [← hlast]
      refine setStep_mapChildren hfs hc fun s hs => ?_
      have hsame : s ∈ (done ++ [c]).map Prod.fst ↔ s ∈ done.map Prod.fst := by simp [hs]
      funext d
      simp only [lowerThose, hsame]
    have hvisits := hchildren c hc _ (p ++ [c.1]) (cs.map (fun c => p ++ [c.1]) ++ rest) k (ht.child hnode hfs' hmem)
    rw [← hself, modifyAt_child hfs' hmem, hset] at hvisits
    rw [List.map_cons, List.sum_cons, Nat.add_comm, Function.iterate_add_apply, List.map_cons, List.cons_append, hvisits,
      ih _ (by rw [List.append_assoc, List.singleton_append, hsplit]), List.map_cons, List.sum_cons, Nat.add_assoc]

theorem lowers_number (n : Number) : Lowers (.number n) := by
  intro t p rest k ht
  have hnone : lowered? (.number n) = none := lowered?_of_not_binary rfl
  have hlower : lower (.number n) = .number n := rfl
  rw [hlower, nodes_of_no_children (children_number n), List.length_singleton, Function.iterate_one, step_of_hasPlace ht,
    hnone, write, children_number, count_number]
  rfl

theorem lowers (hnode : u.isNode) (ht : u.HasDistinctFields) (hl : u.HasPlainLiterals) : Lowers u := by
  induction u using induction_children with
  | step u ih =>
    intro t p rest k hplace
    have hfs' : ((write (lowered? u) u).fields.map Prod.fst).Nodup := by
      rw [map_fst_fields_write]
      exact ht.self
    have hchildren : ∀ c ∈ (write (lowered? u) u).children, Lowers c.2 := by
      rw [children_write ht.self, List.forall_mem_map]
      intro c hc
      rcases writtenChild_eq ht.self hc with hsame | ⟨-, n, hnew⟩
      · rw [hsame]
        exact ih c hc (isNode_of_mem_children hc) (ht.child hc) (hl.child hc)
      · rw [hnew]
        exact lowers_number n
    have hlength : (lower u).nodes.length =
        ((write (lowered? u) u).children.map fun c => (lower c.2).nodes.length).sum + 1 := by
      rw [lower_eq_mapChildren_write hnode ht.self, nodes_eq, children_mapChildren fun _ c hc => by simpa using hc,
        List.flatMap_map, List.length_cons, List.length_flatMap]
    have hstart : write (lowered? u) u = (write (lowered? u) u).mapChildren (lowerThose []) :=
      (mapChildren_eq_self fun _ _ => rfl).symm
    have hvisits := iterate_children rest (k + if (lowered? u).isSome then 1 else 0) (by rwa [isNode_write]) hfs'
      hchildren hplace (List.nil_append _)
    rw [← hstart, ← lower_eq_mapChildren_write hnode ht.self] at hvisits
    rw [hlength, Function.iterate_succ_apply, step_of_hasPlace hplace, hvisits, count_eq_write hnode ht hl, Nat.add_assoc]

/-- A sweep is over when there is no node left to be visited. -/
theorem iterate_step_of_done (n : Nat) (t : Tree) (k : Nat) : step^[n] ⟨t, [], k⟩ = ⟨t, [], k⟩ :=
  Function.iterate_fixed rfl n

end Sweep

/-- A sweep that does not halt at a test of too many digits (`halted?_eq_none_iff`) comes to its end after one visit to
each node, with the tree in which all range tests are lowered and with their number. This tree is the one in which every
comparison `v < N` of a name with an integer `N ≥ 1` has been edited to `v === N - 1` at once, and their number that of
these comparisons. All nodes keep their places, and what is neither such a comparison nor a literal is as it was, but
for what is lowered below it. -/
theorem sweep_lowers (h : t.IsScriptTree) (hint : t.HasIntegerLiterals) :
    (∀ n ≥ (lower t).nodes.length, Sweep.step^[n] (Sweep.start t) = ⟨lower t, [], count t⟩) ∧
      lower t = t.editAll edit ∧
      count t = t.nodes.countP (fun u => (bound? u).isSome) ∧
      (lower t).walk.map Visit.place = t.walk.map Visit.place ∧
      ∀ v ∈ t.walk, v.node.hasTag Tag.literal = false → bound? v.node = none →
        (lower t).at? v.path = some (v.node.mapChildren fun _ c => lower c) := by
  refine ⟨fun n hn => ?_, lower_eq_editAll h.isNode h.fields hint,
    count_eq_countP_bound? h.isNode h.fields h.literals hint, map_place_walk_lower h.fields h.literals,
    fun v hv hlit hbound => at?_lower h.isNode h.fields h.literals hint hv hlit hbound⟩
  have hvisits : Sweep.step^[(lower t).nodes.length] (Sweep.start t) = ⟨lower t, [], 0 + count t⟩ :=
    Sweep.lowers h.isNode h.fields h.literals t [] [] 0 t.hasPlace_nil
  obtain ⟨m, rfl⟩ := Nat.exists_eq_add_of_le' hn
  rw [Function.iterate_add_apply, hvisits, Sweep.iterate_step_of_done, Nat.zero_add]

/-- The script `if ((a < 7) < 2) { while (b < 1) f(); } else if (c < 0) {}`. -/
def nestedRanges : Tree :=
  scriptOf [.ifThen (.node Tag.binary [("operator", .text "<"),
      ("left", SelectorTest.toTree ⟨.text "a", "<", .int 7⟩), ("right", .number (.int 2))])
    (blockOf [.node "WhileStatement" [("test", SelectorTest.toTree ⟨.text "b", "<", .int 1⟩), ("body", callOf "f")]])
    (.ifThen (SelectorTest.toTree ⟨.text "c", "<", .int 0⟩) (blockOf []) .null)]

/-- Two of the four comparisons are lowered, the one inside another and the one that heads a loop. -/
theorem sweep_nestedRanges :
    nestedRanges.IsScriptTree ∧ nestedRanges.HasIntegerLiterals ∧
      Sweep.step^[25] (Sweep.start nestedRanges) = ⟨lower nestedRanges, [], 2⟩ ∧
      nestedRanges.nodes.filterMap bound? = [7, 1] := by
  have hscript : nestedRanges.IsScriptTree := by decide +kernel
  have hint : nestedRanges.HasIntegerLiterals := by decide +kernel
  have hcount : count nestedRanges = 2 := by decide +kernel
  obtain ⟨hsweep, -⟩ := sweep_lowers hscript hint
  refine ⟨hscript, hint, ?_, by decide +kernel⟩
  rw [← hcount]
  exact hsweep 25 (by decide +kernel)

end RangeTest
end Deflatten
