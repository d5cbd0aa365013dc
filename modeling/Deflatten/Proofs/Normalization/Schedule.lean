import Deflatten.Proofs.Normalization.Settled
/-!
# Schedules of the passes

The two passes may run on a tree in any order and number. Each run leaves the tree settled for its pass. Guarding keeps
a tree settled for lowering, but lowering can make the head of a chain an equality test, so that the chain is guarded in
a later run. So a schedule has come to its end when lowering has been followed by guarding, at once or not
(`schedule_settles`). Every run of a schedule is one that goes to its end; runs that may halt, and of which none does,
are the runs of a schedule (`attempts_eq_schedule`).
-/

namespace Deflatten

open Deflatten.Tree

/-- One of the two passes over a tree. -/
inductive Pass where
  | guardElses
  | lowerRanges
  deriving DecidableEq, Repr

namespace Pass

/-- What a run of a pass makes of a tree. -/
def run : Pass → Tree → Tree
  | guardElses, t => (ElseGuard.run t).1
  | lowerRanges, t => RangeTest.lower t

/-- How many rewrites a run of a pass makes in a tree. -/
def rewrites : Pass → Tree → Nat
  | guardElses, t => ElseGuard.guardedCount (ElseGuard.run t).2
  | lowerRanges, t => RangeTest.count t

/-- A run of a pass makes no rewrite in a tree and leaves it as it is. -/
def IsIdle (p : Pass) (t : Tree) : Prop := p.run t = t ∧ p.rewrites t = 0

/-- A pass finds nothing to rewrite in a tree. -/
def IsSettled : Pass → Tree → Prop
  | guardElses, t => ElseGuard.IsSettled t
  | lowerRanges, t => RangeTest.IsSettled t

end Pass

/-- What runs of the passes, the first one first, make of a tree. -/
def schedule (ps : List Pass) (t : Tree) : Tree := ps.foldl (fun t p => p.run t) t

/-- How many rewrites the runs of one pass make in a schedule. -/
def rewritesOf (pass : Pass) : List Pass → Tree → Nat
  | [], _ => 0
  | p :: ps, t => (if p = pass then p.rewrites t else 0) + rewritesOf pass ps (p.run t)

variable {t : Tree} {p : Pass} {ps : List Pass}

@[simp] theorem schedule_nil (t : Tree) : schedule [] t = t := rfl

@[simp] theorem schedule_cons (p : Pass) (ps : List Pass) (t : Tree) :
    schedule (p :: ps) t = schedule ps (p.run t) := rfl

@[simp] theorem schedule_append (ps qs : List Pass) (t : Tree) :
    schedule (ps ++ qs) t = schedule qs (schedule ps t) :=
  List.foldl_append

/-! ## One run -/

namespace Pass

theorem isScriptTree_run (p : Pass) (h : t.IsScriptTree) : (p.run t).IsScriptTree := by
  cases p with
  | guardElses => exact ElseGuard.isScriptTree_run h
  | lowerRanges => exact RangeTest.isScriptTree_lower h

/-- A run leaves a tree settled for its pass. -/
theorem isSettled_run (p : Pass) (h : t.IsScriptTree) : p.IsSettled (p.run t) := by
  cases p with
  | guardElses => exact ElseGuard.isSettled_run h.fields
  | lowerRanges => exact RangeTest.isSettled_lower h.fields

theorem isIdle_of_isSettled (h : t.IsScriptTree) (hp : p.IsSettled t) : p.IsIdle t := by
  cases p with
  | guardElses => exact ⟨ElseGuard.run_of_isSettled h.fields hp, ElseGuard.guardedCount_of_isSettled h.fields hp⟩
  | lowerRanges =>
    refine ⟨RangeTest.lower_of_isSettled h.isNode hp, ?_⟩
    rw [rewrites, RangeTest.count_eq h.isNode h.fields h.literals]
    exact RangeTest.isSettled_iff_countP.mp hp

/-- Where no range test is left to lower, no run makes one. -/
theorem isSettled_lowerRanges_run (p : Pass) (h : t.IsScriptTree) (hranges : lowerRanges.IsSettled t) :
    lowerRanges.IsSettled (p.run t) := by
  cases p with
  | guardElses =>
    have hcount : (ElseGuard.run t).1.nodes.countP RangeTest.isLowerable = 0 := by
      rw [ElseGuard.countP_isLowerable_run h.fields]
      exact RangeTest.isSettled_iff_countP.mp hranges
    exact RangeTest.isSettled_iff_countP.mpr hcount
  | lowerRanges => exact isSettled_run lowerRanges h

end Pass

/-! ## Many runs -/

theorem isScriptTree_schedule (h : t.IsScriptTree) : (schedule ps t).IsScriptTree := by
  induction ps generalizing t with
  | nil => exact h
  | cons p ps ih => exact ih (p.isScriptTree_run h)

theorem isSettled_lowerRanges_schedule (h : t.IsScriptTree) (hranges : Pass.lowerRanges.IsSettled t) :
    Pass.lowerRanges.IsSettled (schedule ps t) := by
  induction ps generalizing t with
  | nil => exact hranges
  | cons p ps ih => exact ih (p.isScriptTree_run h) (p.isSettled_lowerRanges_run h hranges)

theorem schedule_of_isSettled (h : t.IsScriptTree) (hsettled : ∀ p : Pass, p.IsSettled t) : schedule ps t = t := by
  induction ps with
  | nil => rfl
  | cons p ps ih =>
    have hrun : p.run t = t := (Pass.isIdle_of_isSettled h (hsettled p)).1
    rw [schedule_cons, hrun, ih]

/-- Where no range test is left to lower, guarding settles the tree for good. -/
theorem isSettled_schedule_of_guardElses_mem (h : t.IsScriptTree) (hranges : Pass.lowerRanges.IsSettled t)
    (hmem : .guardElses ∈ ps) (p : Pass) : p.IsSettled (schedule ps t) := by
  -- Up to the guards no range test comes up; from there on nothing is rewritten at all.
  obtain ⟨before, after, rfl⟩ := List.append_of_mem hmem
  have hbefore : (schedule before t).IsScriptTree := isScriptTree_schedule h
  have hboth : ∀ p : Pass, p.IsSettled (Pass.guardElses.run (schedule before t)) := by
    intro p
    cases p with
    | guardElses => exact Pass.isSettled_run _ hbefore
    | lowerRanges => exact Pass.isSettled_lowerRanges_run _ hbefore (isSettled_lowerRanges_schedule h hranges)
  rw [schedule_append, schedule_cons, schedule_of_isSettled (Pass.isScriptTree_run _ hbefore) hboth]
  exact hboth p

theorem isSettled_schedule_of_sublist (h : t.IsScriptTree) (hsub : [.lowerRanges, .guardElses].Sublist ps) (p : Pass) :
    p.IsSettled (schedule ps t) := by
  obtain ⟨first, rest, rfl, hlower, hguard⟩ := List.cons_sublist_iff.mp hsub
  obtain ⟨before, after, rfl⟩ := List.append_of_mem hlower
  have hbefore : (schedule before t).IsScriptTree := isScriptTree_schedule h
  have hlowered : (Pass.lowerRanges.run (schedule before t)).IsScriptTree := Pass.isScriptTree_run _ hbefore
  rw [List.append_assoc, List.cons_append, schedule_append, schedule_cons]
  refine isSettled_schedule_of_guardElses_mem hlowered (Pass.isSettled_run _ hbefore) ?_ p
  exact List.mem_append_right _ (List.singleton_sublist.mp hguard)

/-! ## Counting -/

/-- The range tests of a tree are lowered in the first run that lowers any, and no others come up. -/
theorem rewritesOf_lowerRanges (h : t.IsScriptTree) :
    rewritesOf .lowerRanges ps t = if .lowerRanges ∈ ps then t.nodes.countP RangeTest.isLowerable else 0 := by
  induction ps generalizing t with
  | nil => rfl
  | cons p ps ih =>
    rw [rewritesOf, ih (p.isScriptTree_run h)]
    cases p with
    | guardElses =>
      have hkept : (Pass.guardElses.run t).nodes.countP RangeTest.isLowerable = t.nodes.countP RangeTest.isLowerable :=
        ElseGuard.countP_isLowerable_run h.fields
      simp [hkept]
    | lowerRanges =>
      have hnone : (Pass.lowerRanges.run t).nodes.countP RangeTest.isLowerable = 0 :=
        RangeTest.isSettled_iff_countP.mp (Pass.isSettled_run .lowerRanges h)
      have hall : Pass.lowerRanges.rewrites t = t.nodes.countP RangeTest.isLowerable :=
        RangeTest.count_eq h.isNode h.fields h.literals
      simp [hnone, hall]

/-- Every chain that ends in a block still does after a schedule, or has been guarded in it. -/
theorem blockEnds_schedule (h : t.IsScriptTree) :
    ElseGuard.blockEnds (schedule ps t) + rewritesOf .guardElses ps t = ElseGuard.blockEnds t := by
  induction ps generalizing t with
  | nil => rfl
  | cons p ps ih =>
    have hrest := ih (p.isScriptTree_run h)
    rw [schedule_cons, rewritesOf]
    cases p with
    | guardElses =>
      have hrun : ElseGuard.blockEnds (Pass.guardElses.run t) + Pass.guardElses.rewrites t = ElseGuard.blockEnds t :=
        ElseGuard.blockEnds_run h.fields
      rw [if_pos rfl]
      omega
    | lowerRanges =>
      have hrun : ElseGuard.blockEnds (Pass.lowerRanges.run t) = ElseGuard.blockEnds t := ElseGuard.blockEnds_lower h
      rw [if_neg (by decide), Nat.zero_add, hrest, hrun]

/-! ## Normalization as a schedule -/

namespace Normalized

/-- The passes of one normalization. -/
def passes (lowerRanges : Bool) : List Pass := .guardElses :: if lowerRanges then [.lowerRanges] else []

theorem tree_ofTree_eq_schedule (t : Tree) (lowerRanges : Bool) :
    (ofTree t lowerRanges).tree = schedule (passes lowerRanges) t := by
  cases lowerRanges <;> rfl

/-- Where the passes are idle, normalization rewrites nothing. -/
theorem ofTree_of_isIdle {lowerRanges : Bool} (h : ∀ p ∈ passes lowerRanges, p.IsIdle t) :
    (ofTree t lowerRanges).tree = t ∧ (ofTree t lowerRanges).metrics.guardedElses = 0 ∧
      (ofTree t lowerRanges).metrics.loweredRanges = 0 := by
  obtain ⟨hguarded, hguards⟩ : Pass.guardElses.IsIdle t := h _ List.mem_cons_self
  have hguarded : (ElseGuard.run t).1 = t := hguarded
  have hguards : ElseGuard.guardedCount (ElseGuard.run t).2 = 0 := hguards
  cases lowerRanges with
  | false => simp [ofTree, metrics, ElseGuard.metrics, hguarded, hguards]
  | true =>
    obtain ⟨hlowered, hranges⟩ : Pass.lowerRanges.IsIdle t := h _ (List.mem_cons_of_mem _ List.mem_cons_self)
    have hlowered : RangeTest.lower t = t := hlowered
    have hranges : RangeTest.count t = 0 := hranges
    simp [ofTree, metrics, ElseGuard.metrics, hguarded, hguards, hlowered, hranges]

end Normalized

/-! ## The end of a schedule -/

/-- Every schedule of the passes, in which no run halts (`attempts_eq_schedule`), comes to an end. A pass that has just
run is idle; after lowering and then, at once or later, guarding both are, so that no third normalization changes what
the second made. Lowering makes as many rewrites in all as the tree has range tests to be lowered, if it runs, and
guarding at most as many as the tree has chains that end in a block. -/
theorem schedule_settles (h : t.IsScriptTree) :
    (∀ (ps : List Pass) (p : Pass), p.IsIdle (schedule (ps ++ [p]) t)) ∧
      (∀ ps : List Pass, [.lowerRanges, .guardElses].Sublist ps → ∀ p : Pass, p.IsIdle (schedule ps t)) ∧
      (∀ first second third : Bool, first = true ∨ second = false ∧ third = false →
        let u := (Normalized.ofTree (Normalized.ofTree t first).tree second).tree
        (Normalized.ofTree u third).tree = u ∧ (Normalized.ofTree u third).metrics.guardedElses = 0 ∧
          (Normalized.ofTree u third).metrics.loweredRanges = 0) ∧
      ∀ ps : List Pass,
        (rewritesOf .lowerRanges ps t = if .lowerRanges ∈ ps then t.nodes.countP RangeTest.isLowerable else 0) ∧
          rewritesOf .guardElses ps t ≤ (DepthIndex.heads t).countP fun v => v.node.finalElse.isBlock := by
  have hagain : ∀ (ps : List Pass) (p : Pass), p.IsIdle (schedule (ps ++ [p]) t) := by
    intro ps p
    have hbefore : (schedule ps t).IsScriptTree := isScriptTree_schedule h
    rw [schedule_append]
    exact Pass.isIdle_of_isSettled (p.isScriptTree_run hbefore) (p.isSettled_run hbefore)
  have hboth : ∀ ps : List Pass, [.lowerRanges, .guardElses].Sublist ps → ∀ p : Pass, p.IsIdle (schedule ps t) :=
    fun ps hsub p => Pass.isIdle_of_isSettled (isScriptTree_schedule h) (isSettled_schedule_of_sublist h hsub p)
  refine ⟨hagain, hboth, ?_, ?_⟩
  · intro first second third hflags
    refine Normalized.ofTree_of_isIdle ?_
    rw [Normalized.tree_ofTree_eq_schedule, Normalized.tree_ofTree_eq_schedule, ← schedule_append]
    rcases hflags with rfl | ⟨rfl, rfl⟩
    · -- The second normalization guards what the first one has lowered.
      have hsub : [.lowerRanges, .guardElses].Sublist (Normalized.passes true ++ Normalized.passes second) := by
        cases second <;> decide
      exact fun p _ => hboth _ hsub p
    · intro p hp
      obtain rfl : p = .guardElses := List.mem_singleton.mp hp
      exact hagain (Normalized.passes first) .guardElses
  · intro ps
    have hends : ElseGuard.blockEnds (schedule ps t) + rewritesOf .guardElses ps t = ElseGuard.blockEnds t :=
      blockEnds_schedule h
    have hheads : (DepthIndex.heads t).countP (fun v => v.node.finalElse.isBlock) = ElseGuard.blockEnds t := by
      rw [ElseGuard.blockEnds, ← heads_eq_headNodes, List.countP_map]
      rfl
    refine ⟨rewritesOf_lowerRanges h, ?_⟩
    omega

/-- The script `if (s < 1) { a(); } else { b(); }`. -/
def rangeThenElse : Tree :=
  scriptOf [.ifThen (SelectorTest.toTree ⟨.text "s", SelectorTest.lessThan, .int 1⟩) (blockOf [callOf "a"])
    (blockOf [callOf "b"])]

/-- One normalization lowers the range test, and only the next guards the `else` part; then both passes are idle. -/
theorem rangeThenElse_settles :
    rangeThenElse.IsScriptTree ∧ Pass.guardElses.rewrites rangeThenElse = 0 ∧
      Pass.guardElses.rewrites (schedule (Normalized.passes true) rangeThenElse) = 1 ∧
      ∀ p : Pass, p.IsIdle (schedule [.guardElses, .lowerRanges, .guardElses] rangeThenElse) := by
  have h : rangeThenElse.IsScriptTree := by decide +kernel
  refine ⟨h, by decide +kernel, by decide +kernel, ?_⟩
  exact (schedule_settles h).2.1 _ (by decide)

end Deflatten
