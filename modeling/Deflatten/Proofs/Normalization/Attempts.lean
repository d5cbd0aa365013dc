import Deflatten.Proofs.Normalization.AllAtOnce
import Deflatten.Proofs.Normalization.Halting
import Deflatten.Proofs.Normalization.Schedule
import Deflatten.Proofs.Normalization.TestOrigins
import Deflatten.Proofs.Tree.Replacement
import Mathlib.Data.List.TakeWhile
/-!
# Runs that may halt

A run of a pass halts at a test that cannot be written, and the tree stays as it is by then. Whether it halts or not,
every node is one of the tree but for what stands below it, or comes with a test that the run has written
(`Pass.keeps_or_comesWith`). `attempts` lets one run follow on another all the same. Where every test can be written no
run halts (`Pass.halts_eq_false_iff`), and the runs are those of a schedule, each of which goes to its end
(`attempts_eq_schedule`).
-/

namespace Deflatten

open Deflatten.Tree

variable {t : Tree}

/-! ## Guards -/

namespace ElseGuard

/-- What a run leaves of a tree, also if it halts. -/
def attempt (t : Tree) : Tree :=
  match halted? t with
  | some (u, _) => u
  | none => (run t).1

/-- A run carries out the plan with the tests of some heads, all of which can be written. -/
theorem exists_plan_attempt (ht : t.HasDistinctFields) :
    ∃ vs : List Visit, (∀ v ∈ vs, v ∈ DepthIndex.heads t ∧ (outcome v.node).isWritable) ∧
      attempt t = (vs.foldl Plan.guard fun _ => none).apply t := by
  have hperm := DepthIndex.outerFirst_perm t
  have hnodup : ((DepthIndex.ofTree t).outerFirst.map Visit.path).Nodup :=
    (hperm.map Visit.path).nodup_iff.mpr (DepthIndex.nodup_paths_heads ht)
  rw [attempt, halted?, run_snd ht]
  cases hfind : ((DepthIndex.ofTree t).outerFirst.map fun v => outcome v.node).findIdx? fun o => !o.isWritable with
  | none =>
    rw [List.findIdx?_eq_none_iff] at hfind
    refine ⟨(DepthIndex.ofTree t).outerFirst, fun v hv => ⟨hperm.mem_iff.mp hv, ?_⟩, ?_⟩
    · simpa using hfind _ (List.mem_map_of_mem hv)
    · show (run t).1 = _
      rw [run, steps_eq_apply ht hperm]
  | some k =>
    -- Only the heads before the first test that cannot be written are treated.
    obtain ⟨hk, -, hbefore⟩ := List.findIdx?_eq_some_iff_getElem.mp hfind
    refine ⟨(DepthIndex.ofTree t).outerFirst.take k, fun v hv => ?_, ?_⟩
    · obtain ⟨i, hi, rfl⟩ := List.mem_take_iff_getElem.mp hv
      have hlt : i < k := by omega
      refine ⟨hperm.mem_iff.mp (List.getElem_mem _), ?_⟩
      simpa using hbefore i hlt
    · show (steps t _).1 = _
      rw [← List.map_take, steps_eq_apply_of_mem_heads ht (fun v hv => hperm.mem_iff.mp (List.mem_of_mem_take hv))
        (by rw [List.map_take]; exact hnodup.sublist (List.take_sublist _ _))]

/-- Every node after a run was there, or comes with the test of a head that can be written. -/
theorem keeps_or_comesWith (ht : t.HasDistinctFields) {w : Tree} (hw : w ∈ (attempt t).nodes) :
    (∃ u ∈ t.nodes, u.Keeps w) ∨ ∃ test, (∃ v ∈ DepthIndex.heads t, guardTest? v.node = some test) ∧
      test.value.isWritable ∧ ComesWith test w := by
  obtain ⟨vs, hvs, hattempt⟩ := exists_plan_attempt ht
  rw [hattempt] at hw
  rcases Plan.mem_nodes_apply (F := fun _ _ => True) trivial (fun _ _ _ _ _ _ => trivial) hw with
    ⟨plan, u, hu, -, rfl⟩ | ⟨p, u, test, -, hplan, hnew⟩
  · refine .inl ⟨u, hu, ?_⟩
    rw [Plan.apply_eq]
    exact .mapChildren Plan.isNode_applyChild u
  · rcases Plan.eq_some_of_foldl_guard hplan with hnone | ⟨v, hv, hguard⟩
    · cases hnone
    · obtain ⟨hhead, hwritable⟩ := hvs v hv
      rw [(guardTest?_eq_some hguard).2] at hwritable
      exact .inr ⟨test, ⟨v, hhead, hguard⟩, hwritable, hnew⟩

end ElseGuard

/-! ## Lowered range tests -/

namespace RangeTest

/-- What a run leaves of a tree, also if it halts. -/
def attempt (t : Tree) : Tree := (halted? t).getD (lower t)

/-- What may stand at a place of a tree of which some range tests have been lowered: what stood there but for what
stands below, or the literal of an equality test that can be written. -/
inductive Stands (t : Tree) : TreePath → Tree → Prop
  | kept {p : TreePath} {u w : Tree} (h : t.Leads p u) (keeps : u.Keeps w) : Stands t p w
  | new {p : TreePath} {u : Tree} {test : SelectorTest} (h : t.Leads p u) (hlowered : lowered? u = some test)
      (hwritable : test.value.isWritable) : Stands t (p ++ [⟨"right", none⟩]) (.number test.value)

/-- A tree is another one of which some range tests have been lowered. -/
def IsLoweredFrom (t t' : Tree) : Prop := ∀ p w, t'.Leads p w → Stands t p w

/-- The right operand of a range test is a literal. -/
theorem leads_right {p : TreePath} {u : Tree} {test : SelectorTest} (h : t.Leads p u) (hlowered : lowered? u = some test) :
    t.Leads (p ++ [⟨"right", none⟩]) (u.get "right") ∧ (u.get "right").hasTag Tag.literal := by
  obtain ⟨range, hrange, -⟩ := lowered?_eq_some_iff.mp hlowered
  obtain ⟨htag, -, -, hvalue, -⟩ := SelectorTest.ofTree?_eq_some hrange
  have hlit := hasTag_of_number? hvalue
  exact ⟨h.append (.child (get_mem_children (isNode_of_hasTag htag) rfl (isNode_of_hasTag hlit)) (.here _)), hlit⟩

theorem isBinary_of_lowered? {test : SelectorTest} (h : lowered? t = some test) : t.hasTag Tag.binary := by
  obtain ⟨range, hrange, -⟩ := lowered?_eq_some_iff.mp h
  exact (SelectorTest.ofTree?_eq_some hrange).1

/-- What is left of a range test is still the range test but for what stands below when its equality test is written. -/
theorem keeps_write {u w : Tree} {test : SelectorTest} (h : lowered? u = some test) (hw : u.Keeps w) :
    u.Keeps (write (some test) w) := by
  obtain ⟨hop, hright⟩ := fields_of_lowered? h
  have hbinary := isBinary_of_lowered? h
  have htag : (write (some test) w).tag? = u.tag? := by
    rw [← hw.tag]
    cases w <;> rfl
  have hnumber : ∀ v : Tree, v.tag? = u.tag? → v.number? = none := by
    intro v hv
    have hv : v.hasTag Tag.binary := by rwa [hasTag, hv]
    rw [number?, hasTag_of_ne hv (by decide), if_neg Bool.false_ne_true]
  refine ⟨htag, ?_, (hnumber _ htag).trans (hnumber u rfl).symm, fun _ hnone => ?_⟩
  · rw [← hw.names] at hop hright
    rw [write, map_fst_fields_set _ (by rwa [map_fst_fields_set _ hop]), map_fst_fields_set _ hop, hw.names]
  · -- The right operand stands below.
    have hchild : (u.get "right").isNode := isNode_of_hasTag (leads_right (.here u) h).2
    have hmem := get_mem_children (isNode_of_hasTag hbinary) (rfl : isNote "right" = false) hchild
    rw [hnone] at hmem
    cases hmem

theorem mem_children_write {u : Tree} {test : SelectorTest} {c : Step × Tree} (h : c ∈ (write (some test) u).children) :
    c ∈ u.children ∨ c = (⟨"right", none⟩, .number test.value) := by
  rcases mem_children_set h with hrest | hright
  · rcases mem_children_set hrest with hown | hop
    · exact .inl hown
    · cases hop
  · exact .inr (List.mem_singleton.mp hright)

theorem eq_of_leads_number {n : Number} {p : TreePath} {w : Tree} (h : (Tree.number n).Leads p w) :
    p = [] ∧ w = .number n := by
  cases h with
  | here => exact ⟨rfl, rfl⟩
  | child hc _ =>
    rw [children_number] at hc
    cases hc

namespace IsLoweredFrom

variable {t' : Tree}

theorem refl (t : Tree) : IsLoweredFrom t t := fun _ w h => .kept h (.refl w)

theorem keeps_or_eq_number (h : IsLoweredFrom t t') {w : Tree} (hw : w ∈ t'.nodes) :
    (∃ u ∈ t.nodes, u.Keeps w) ∨
      ∃ test, (∃ u ∈ t.nodes, lowered? u = some test) ∧ test.value.isWritable ∧ w = .number test.value := by
  have hmem : ∀ {p u}, t.Leads p u → u ∈ t.nodes := by
    intro p u hp
    obtain ⟨v, hv, -, rfl⟩ := exists_mem_walk_of_leads hp
    exact List.mem_map_of_mem hv
  obtain ⟨v, hv, rfl⟩ := List.mem_map.mp hw
  generalize hnode : v.node = w
  generalize hpath : v.path = p
  have hstands : Stands t p w := by
    rw [← hnode, ← hpath]
    exact h v.path v.node (leads_of_mem_walk hv)
  cases hstands with
  | kept hp keeps => exact .inl ⟨_, hmem hp, keeps⟩
  | new hp hlowered hwritable => exact .inr ⟨_, ⟨_, hmem hp, hlowered⟩, hwritable, rfl⟩

theorem hasDistinctFields (h : IsLoweredFrom t t') (ht : t.HasDistinctFields) : t'.HasDistinctFields := by
  intro w hw
  rcases h.keeps_or_eq_number hw with ⟨u, hu, hkeeps⟩ | ⟨test, -, -, rfl⟩
  · rw [hkeeps.names]
    exact ht u hu
  · simp [number, fields]

/-- What stands in the place of a range test of the tree is still that test but for what stands below: the literals that
have been written stand in the places of others. -/
theorem keeps (h : IsLoweredFrom t t') (ht : t.HasDistinctFields) {p : TreePath} {u u' : Tree} {test : SelectorTest}
    (hp : t.Leads p u) (hlowered : lowered? u = some test) (hu' : t'.Leads p u') : u.Keeps u' := by
  generalize hpath : p = p' at hu'
  have hstands := h p' u' hu'
  cases hstands with
  | kept hv keeps =>
    rw [← hpath] at hv
    rwa [hp.unique ht hv]
  | new hv hlow _ =>
    obtain ⟨hright, hlit⟩ := leads_right hv hlow
    rw [← hpath] at hright
    rw [hright.unique ht hp] at hlit
    exact absurd (isBinary_of_lowered? hlowered) (by rw [hasTag_of_ne hlit (by decide)]; exact Bool.false_ne_true)

/-- To put the equality test for a range test of the tree in its place is to lower one more. -/
theorem replace (h : IsLoweredFrom t t') (ht : t.HasDistinctFields) {p : TreePath} {u : Tree} {test : SelectorTest}
    (hp : t.Leads p u) (hlowered : lowered? u = some test) (hwritable : test.value.isWritable) :
    IsLoweredFrom t (RangeTest.replace t' (p, test)) := by
  have hreplace : RangeTest.replace t' (p, test) = t'.modifyAt (write (some test)) p := rfl
  have hfix : ∀ v : Tree, v.isNode = false → write (some test) v = v := by
    intro v hv
    cases v with
    | node _ _ => cases hv
    | _ => rfl
  rw [hreplace]
  rcases modifyAt_eq_self_or_leads hfix (not_isNote_of_leads hp) with hsame | ⟨u', hu'⟩
  · rw [hsame]
    exact h
  · have hwritten := keeps_write hlowered (h.keeps ht hp hlowered hu')
    have hnode : (write (some test) u').isNode := by
      rw [hwritten.isNode]
      exact isNode_of_hasTag (isBinary_of_lowered? hlowered)
    intro q w hw
    rcases leads_modifyAt (h.hasDistinctFields ht) hu' hnode hw with ⟨v, hv, hvw⟩ | ⟨r, rfl, hr⟩
    · have hstands := h q v hv
      cases hstands with
      | kept hq keeps => exact .kept hq (keeps.trans hvw)
      | new hq hlow hwritable' =>
        rw [hvw.same rfl (children_number _)]
        exact .new hq hlow hwritable'
    · cases hr with
      | here =>
        rw [List.append_nil]
        exact .kept hp hwritten
      | child hc hr =>
        rcases mem_children_write hc with hown | hnew
        · exact h _ _ (hu'.append (.child hown hr))
        · obtain ⟨rfl, rfl⟩ := Prod.mk.inj hnew
          obtain ⟨rfl, rfl⟩ := eq_of_leads_number hr
          exact .new hp hlowered hwritable

/-- To put the equality tests for some range tests of the tree in their places is to lower these. -/
theorem foldl_replace (h : IsLoweredFrom t t') (ht : t.HasDistinctFields) {rs : List (TreePath × SelectorTest)}
    (hrs : ∀ r ∈ rs, r ∈ replacements t ∧ r.2.value.isWritable) : IsLoweredFrom t (rs.foldl RangeTest.replace t') := by
  induction rs generalizing t' with
  | nil => exact h
  | cons r rs ih =>
    obtain ⟨hr, hwritable⟩ := hrs r List.mem_cons_self
    obtain ⟨v, hv, hread⟩ := List.mem_filterMap.mp hr
    obtain ⟨test, hlowered, rfl⟩ := Option.map_eq_some_iff.mp hread
    exact ih (h.replace ht (leads_of_mem_walk hv) hlowered hwritable) fun r hr => hrs r (List.mem_cons_of_mem _ hr)

end IsLoweredFrom

/-- What stands at a place below a child stands there in the tree. -/
theorem Stands.child {c : Step × Tree} {p : TreePath} {w : Tree} (hc : c ∈ t.children) (h : Stands c.2 p w) :
    Stands t (c.1 :: p) w := by
  cases h with
  | kept h keeps => exact .kept (.child hc h) keeps
  | @new p u test h hlowered hwritable =>
    have hnew : Stands t ((c.1 :: p) ++ [⟨"right", none⟩]) (.number test.value) := .new (.child hc h) hlowered hwritable
    exact hnew

theorem keeps_lower (hfs : (t.fields.map Prod.fst).Nodup) : t.Keeps (lower t) := by
  cases ht : t.isNode with
  | true =>
    have hchildren : t.Keeps (t.mapChildren fun _ c => lower c) := .mapChildren (fun _ c hc => by rwa [isNode_lower]) t
    rw [lower_eq_write ht hfs]
    cases hlowered : lowered? t with
    | none => exact hchildren
    | some test => exact keeps_write hlowered hchildren
  | false =>
    cases t with
    | node _ _ => cases ht
    | list ts => exact ⟨rfl, rfl, rfl, fun hnode => by cases hnode⟩
    | _ => exact .refl _

/-- To lower a tree to the end is to lower all its range tests. -/
theorem isLoweredFrom_lower (ht : t.HasDistinctFields)
    (h : ∀ u ∈ t.nodes, ∀ test, lowered? u = some test → test.value.isWritable) : IsLoweredFrom t (lower t) := by
  induction t using induction_children with
  | step t ih =>
    intro p w hw
    cases hw with
    | here => exact .kept (.here t) (keeps_lower ht.self)
    | child hd hw =>
      rw [children_lower ht.self] at hd
      obtain ⟨c, hc, heq⟩ := List.mem_map.mp hd
      obtain ⟨rfl, rfl⟩ := Prod.mk.inj heq
      have hbelow : ∀ {q}, (lower c.2).Leads q w → Stands t (c.1 :: q) w := fun hq =>
        (ih c hc (ht.child hc) (fun u hu => h u (mem_nodes_of_child hc hu)) _ w hq).child hc
      cases hlowered : lowered? t with
      | none =>
        rw [hlowered] at hw
        exact hbelow hw
      | some test =>
        rw [hlowered, lowerChild] at hw
        split at hw
        · rename_i hright
          obtain ⟨rfl, rfl⟩ := eq_of_leads_number hw
          rw [hright]
          exact .new (.here t) hlowered (h t t.mem_nodes_self test hlowered)
        · exact hbelow hw

/-- A run lowers the range tests of a tree, all or those before the first that cannot be lowered. -/
theorem isLoweredFrom_attempt (ht : t.HasDistinctFields) : IsLoweredFrom t (attempt t) := by
  rw [attempt]
  cases hhalted : halted? t with
  | none => exact isLoweredFrom_lower ht (halted?_eq_none_iff.mp hhalted)
  | some u =>
    rw [halted?] at hhalted
    split at hhalted
    · cases hhalted
    · cases hhalted
      refine (IsLoweredFrom.refl t).foldl_replace ht fun r hr => ⟨(List.takeWhile_sublist _).subset hr, ?_⟩
      exact List.mem_takeWhile_imp (p := fun r : TreePath × SelectorTest => r.2.value.isWritable) hr

end RangeTest

/-! ## Runs of either pass -/

namespace Pass

/-- What a run of a pass leaves of a tree, also if it halts. -/
def attempt : Pass → Tree → Tree
  | guardElses, t => ElseGuard.attempt t
  | lowerRanges, t => RangeTest.attempt t

/-- Whether a run of a pass halts. -/
def halts : Pass → Tree → Bool
  | guardElses, t => (ElseGuard.halted? t).isSome
  | lowerRanges, t => (RangeTest.halted? t).isSome

/-- The tests that a run of a pass comes to. -/
def Writes : Pass → Tree → SelectorTest → Prop
  | guardElses, t, test => ∃ v ∈ DepthIndex.heads t, ElseGuard.guardTest? v.node = some test
  | lowerRanges, t, test => ∃ u ∈ t.nodes, RangeTest.lowered? u = some test

variable {p : Pass}

/-- A run goes to its end if and only if every test that it comes to can be written. -/
theorem halts_eq_false_iff (ht : t.HasDistinctFields) :
    p.halts t = false ↔ ∀ test, p.Writes t test → test.value.isWritable := by
  cases p with
  | guardElses =>
    rw [halts, Option.isSome_eq_false_iff, Option.isNone_iff_eq_none, ElseGuard.halted?_eq_none_iff ht,
      ← heads_eq_headNodes, List.forall_mem_map]
    exact ⟨fun h test ⟨v, hv, htest⟩ => h v hv test htest, fun h v hv test htest => h test ⟨v, hv, htest⟩⟩
  | lowerRanges =>
    rw [halts, Option.isSome_eq_false_iff, Option.isNone_iff_eq_none, RangeTest.halted?_eq_none_iff]
    exact ⟨fun h test ⟨u, hu, htest⟩ => h u hu test htest, fun h u hu test htest => h test ⟨u, hu, htest⟩⟩

/-- A run that does not halt is a run of the pass to its end. -/
theorem attempt_of_not_halts (h : p.halts t = false) : p.attempt t = p.run t := by
  cases p with
  | guardElses =>
    have hnone : ElseGuard.halted? t = none := by simpa [halts] using h
    rw [attempt, ElseGuard.attempt, hnone, run]
  | lowerRanges =>
    have hnone : RangeTest.halted? t = none := by simpa [halts] using h
    rw [attempt, RangeTest.attempt, hnone, Option.getD_none, run]

/-- Every node after a run was there but for what stands below it, or comes with a test that the run has written. -/
theorem keeps_or_comesWith (ht : t.HasDistinctFields) {w : Tree} (hw : w ∈ (p.attempt t).nodes) :
    (∃ u ∈ t.nodes, u.Keeps w) ∨
      ∃ test, p.Writes t test ∧ test.value.isWritable ∧ ElseGuard.ComesWith test w := by
  cases p with
  | guardElses => exact ElseGuard.keeps_or_comesWith ht hw
  | lowerRanges =>
    rcases (RangeTest.isLoweredFrom_attempt ht).keeps_or_eq_number hw with hkept | ⟨test, hlowered, hwritable, rfl⟩
    · exact .inl hkept
    · refine .inr ⟨test, hlowered, hwritable, .inr ?_⟩
      rw [nodes_toTree]
      simp

theorem hasDistinctFields_attempt (p : Pass) (ht : t.HasDistinctFields) : (p.attempt t).HasDistinctFields := by
  intro w hw
  rcases p.keeps_or_comesWith ht hw with ⟨u, hu, hkeeps⟩ | ⟨test, -, -, hnew⟩
  · rw [hkeeps.names]
    exact ht u hu
  · exact hnew.nodup_fields

end Pass

/-- What runs of the passes, the first one first, leave of a tree, whichever of them halt. -/
def attempts (ps : List Pass) (t : Tree) : Tree := ps.foldl (fun t p => p.attempt t) t

@[simp] theorem attempts_nil (t : Tree) : attempts [] t = t := rfl

@[simp] theorem attempts_cons (p : Pass) (ps : List Pass) (t : Tree) :
    attempts (p :: ps) t = attempts ps (p.attempt t) := rfl

/-- Runs of which none halts are the runs of a schedule. -/
theorem attempts_eq_schedule {ps : List Pass}
    (h : ∀ before p after, ps = before ++ p :: after → p.halts (schedule before t) = false) :
    attempts ps t = schedule ps t := by
  induction ps generalizing t with
  | nil => rfl
  | cons p ps ih =>
    have hfirst : p.halts t = false := h [] p ps rfl
    rw [attempts_cons, Pass.attempt_of_not_halts hfirst]
    refine ih fun before p' after hps => ?_
    exact h (p :: before) p' after (by rw [hps, List.cons_append])

end Deflatten
