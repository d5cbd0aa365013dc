import Deflatten.Proofs.Dispatch.Collection
import Deflatten.Proofs.Dispatch.Normalized
import Deflatten.Replay
import Mathlib.Data.List.Forall2
/-!
# Replayed dispatchers

A dispatch program is a script of flat chains, each of which is a dispatcher or does not test the variable. Its order is
replayed against the blocks that are collected from the normalized script. A position of the order gets a block if and
only if some dispatcher answers the value there, and the block is the normalized text of the branch that the first such
dispatcher takes in the script as it was (`Normalized.replay_collect`).
-/

namespace Deflatten

namespace Tree

/-- A script whose `if` statements are the members of chains among its statements: of dispatchers, and of flat chains
that do not test the variable. -/
structure IsDispatchProgram (name : String) (t : Tree) : Prop where
  isProgram : t.hasTag "Program"
  chains : ∀ c ∈ t.children, c.2.isConditional →
    c.2.IsDispatcher name ∨ c.2.IsFlatChain ∧ ∀ test ∈ c.2.chainTests, test.name ≠ .text name
  others : ∀ c ∈ t.children, c.2.isConditional = false → c.2.HasNoConditional

instance (name : String) (t : Tree) : Decidable (t.IsDispatchProgram name) :=
  decidable_of_iff
    (t.hasTag "Program" ∧
      (∀ c ∈ t.children, c.2.isConditional →
        c.2.IsDispatcher name ∨ c.2.IsFlatChain ∧ ∀ test ∈ c.2.chainTests, test.name ≠ .text name) ∧
      ∀ c ∈ t.children, c.2.isConditional = false → c.2.HasNoConditional)
    ⟨fun ⟨hprogram, hchains, hothers⟩ => ⟨hprogram, hchains, hothers⟩, fun h => ⟨h.isProgram, h.chains, h.others⟩⟩

/-- The first dispatcher among the children of a script that answers a value. -/
def answering? (name : String) (n : Int) (t : Tree) : Option Tree :=
  (t.children.map Prod.snd).find? fun u => u.IsDispatcher name ∧ n ∈ answeredValues name u

/-- The branches of a chain, its final `else` included if that is a block. -/
def branches (t : Tree) : List Tree := t.arms.map Prod.snd ++ if t.finalElse.isBlock then [t.finalElse] else []

end Tree

namespace Normalized

open Deflatten.Tree BlockCollector

variable {t branch : Tree} {name : String} {n : Int} {lowerRanges : Bool}

/-- The text of a branch after normalization. -/
def branchText (lowerRanges : Bool) (branch : Tree) : Except Script.Error String :=
  Script.printStatements (((head lowerRanges branch).blockBody?).getD [])

/-- The branches of a dispatcher can be printed, and the values that it answers have few enough digits. -/
def IsWritable (lowerRanges : Bool) (name : String) (t : Tree) : Prop :=
  (∀ branch ∈ t.branches, (branchText lowerRanges branch).isOk) ∧
    ∀ n ∈ answeredValues name t, (Number.int n).isWritable

instance (lowerRanges : Bool) (name : String) (t : Tree) : Decidable (IsWritable lowerRanges name t) :=
  inferInstanceAs (Decidable (_ ∧ _))

/-! ## The branches of a dispatcher -/

theorem isBodyStatement_congr {u : Tree} (h : u.tag? = t.tag?) :
    Script.Printer.isBodyStatement u = Script.Printer.isBodyStatement t := by
  rw [Script.Printer.isBodyStatement, Script.Printer.isBodyStatement, Script.Printer.isStatement,
    Script.Printer.isStatement, h]

/-- A lowered block has statements where it had statements. -/
theorem hasStatements_lower (h : branch.hasStatements) : (RangeTest.lower branch).hasStatements := by
  have hblock := isBlock_of_hasStatements h
  have hnone : RangeTest.lowered? branch = none := RangeTest.lowered?_of_not_binary (hasTag_of_ne hblock (by decide))
  have hbody : (RangeTest.lower branch).get "body" = RangeTest.lower (branch.get "body") :=
    RangeTest.get_lower_of_none (isNode_of_hasTag hblock) hnone rfl
  rw [hasStatements, blockBody?, hblock, if_pos rfl] at h
  rw [hasStatements, blockBody?, RangeTest.isBlock_lower, hblock, if_pos rfl, hbody]
  cases hitems : branch.get "body" with
  | list items =>
    rw [hitems] at h
    cases items with
    | nil => cases h
    | cons first rest =>
      have hfirst : Script.Printer.isBodyStatement first := h
      show Script.Printer.isBodyStatement (if first.isNode then RangeTest.lower first else first) = true
      rw [← hfirst]
      refine isBodyStatement_congr ?_
      split
      · exact RangeTest.tag?_lower first
      · rfl
  | _ =>
    rw [hitems] at h
    cases h

/-- The text of a branch with statements is not empty. -/
theorem isEmpty_branchText {code : String} (ht : branch.HasDistinctFields) (hnone : branch.HasNoConditional)
    (h : branch.hasStatements) (hcode : branchText lowerRanges branch = .ok code) : code.isEmpty = false := by
  have hstatements : (head lowerRanges branch).hasStatements := by
    rw [head_of_hasNoConditional lowerRanges ht hnone]
    cases lowerRanges with
    | false => exact h
    | true => exact hasStatements_lower h
  rw [branchText, Script.printStatements] at hcode
  rw [hasStatements] at hstatements
  split at hstatements
  · rename_i first rest hbody
    rw [hbody, Option.getD_some] at hcode
    cases hprinted : Script.Printer.printStatements (first :: rest) with
    | error e => rw [hprinted] at hcode; cases hcode
    | ok text =>
      rw [hprinted] at hcode
      cases hcode
      exact Script.Printer.printStatements_ne_empty hstatements hprinted
  · cases hstatements

theorem branches_eq (name : String) (t : Tree) : t.branches = (answeredArms name t).map Prod.snd := by
  rw [branches, answeredArms, List.map_append]
  split <;> rfl

/-- A case of a normalized dispatcher is for a value that the dispatcher answers and holds one of its branches. -/
theorem mem_arms_head (ht : t.HasDistinctFields) (h : t.IsDispatcher name) {arm : Option SelectorTest × Tree}
    (harm : arm ∈ (head lowerRanges t).arms) :
    ∃ m ∈ answeredValues name t, ∃ branch ∈ t.branches, arm = (some (caseOf name m), head lowerRanges branch) ∧
      branch.HasDistinctFields ∧ branch.HasNoConditional ∧ branch.hasStatements := by
  rw [arms_head lowerRanges ht h] at harm
  obtain ⟨before, hbefore, rfl⟩ := List.mem_map.mp harm
  obtain ⟨m, hm, hcase⟩ := h.exists_case_of_mem_answeredArms hbefore
  refine ⟨m, hm, before.2, ?_, by rw [hcase], branch_of_mem_answeredArms ht h hbefore⟩
  rw [branches_eq name]
  exact List.mem_map_of_mem hbefore

/-! ## Collecting -/

theorem exists_of_isOk {ε α : Type} {x : Except ε α} (h : x.isOk) : ∃ a, x = .ok a := by
  cases x with
  | error e => cases h
  | ok a => exact ⟨a, rfl⟩

/-- A block without `if` statements has none among its statements. -/
theorem not_isConditional_of_mem_blockBody {body : List Tree} {u : Tree} (h : branch.HasNoConditional)
    (hbody : branch.blockBody? = some body) (hu : u ∈ body) : u.isConditional = false := by
  cases hnode : u.isNode with
  | false => exact not_isConditional_of_not_isNode hnode
  | true =>
    rw [blockBody?] at hbody
    split at hbody
    · rename_i hblock
      have hbody := Option.some.inj hbody
      obtain ⟨i, hi⟩ := List.mem_iff_getElem?.mp hu
      cases hfield : branch.field? "body" with
      | none =>
        rw [get_of_field?_eq_none hfield] at hbody
        rw [← hbody] at hu
        cases hu
      | some value =>
        rw [get_of_field? hfield] at hbody
        cases value with
        | scalar _ => rw [← hbody] at hu; cases hu
        | record _ => rw [← hbody] at hu; cases hu
        | node _ _ => rw [← hbody] at hu; cases hu
        | list items =>
          have hitems : items = body := hbody
          rw [← hitems] at hi
          exact (h.child (item_mem_children (isNode_of_hasTag hblock) rfl hfield hi hnode)).self
    · cases hbody

theorem isBottomLevel_head (ht : t.HasDistinctFields) (h : t.IsDispatcher name) :
    (head lowerRanges t).isBottomLevel := by
  have hcond : (head lowerRanges t).isConditional := by rw [isConditional_head]; exact h.isConditional
  have hfirst : (SelectorTest.ofConditional? (head lowerRanges t), (head lowerRanges t).get "consequent") ∈
      (head lowerRanges t).arms := by
    rw [arms_eq hcond]
    exact List.mem_cons_self
  obtain ⟨m, -, branch, -, heq, hfields, hnone, hstatements⟩ := mem_arms_head ht h hfirst
  have hconsequent : (head lowerRanges t).get "consequent" = head lowerRanges branch := congrArg Prod.snd heq
  have hblock : (head lowerRanges branch).isBlock := by
    rw [isBlock_head]
    exact isBlock_of_hasStatements hstatements
  rw [isBottomLevel, hconsequent]
  cases hbody : (head lowerRanges branch).blockBody? with
  | none => rw [blockBody?, hblock, if_pos rfl] at hbody; cases hbody
  | some body =>
    rw [List.all_eq_true]
    intro u hu
    rw [not_isConditional_of_mem_blockBody (hasNoConditional_head lowerRanges hfields hnone) hbody hu]
    rfl

/-- A normalized dispatcher that can be written can be collected. -/
theorem isCollected_of_isDispatcher (ht : t.HasDistinctFields) (h : t.IsDispatcher name)
    (hwritable : IsWritable lowerRanges name t) : IsCollected name (head lowerRanges t) := by
  refine ⟨by rw [isConditional_head]; exact h.isConditional, isFlatChain_head lowerRanges ht h.isFlatChain,
    .inr ⟨isBottomLevel_head ht h, fun arm harm test htest _ => ?_, .inl (not_isBlock_finalElse_head lowerRanges h)⟩⟩
  obtain ⟨m, hm, branch, hbranch, rfl, -⟩ := mem_arms_head ht h harm
  cases htest
  exact ⟨hwritable.2 m hm, exists_of_isOk (hwritable.1 branch hbranch)⟩

theorem tests_head_of_not_tests (hcond : t.isConditional) (htests : ∀ test ∈ t.chainTests, test.name ≠ .text name) :
    ∀ test ∈ (head lowerRanges t).chainTests, test.tests (.text name) = false := by
  intro test htest
  obtain ⟨before, hbefore, hname⟩ := exists_name_of_mem_chainTests_head lowerRanges hcond htest
  exact SelectorTest.not_tests_of_name_ne (hname ▸ htests before hbefore)

/-- A chain that does not test the variable is gone through without a block. -/
theorem isCollected_of_not_tests (ht : t.HasDistinctFields) (hcond : t.isConditional) (h : t.IsFlatChain)
    (htests : ∀ test ∈ t.chainTests, test.name ≠ .text name) : IsCollected name (head lowerRanges t) :=
  ⟨by rwa [isConditional_head], isFlatChain_head lowerRanges ht h, .inl (tests_head_of_not_tests hcond htests)⟩

/-! ## Looking values up -/

/-- What is found for a value: the block of the branch that a dispatcher takes where its variable has the value. -/
def IsBlockOf (lowerRanges : Bool) (name : String) (n : Int) (u : Tree) (b : LeafBlock) : Prop :=
  b.condition = (caseOf name n).describe ∧ b.value = .int n ∧
    ∀ σ : Valuation, σ.value (.text name) = n → branchText lowerRanges (takenBranch σ u) = .ok b.code

theorem selectedBy_int (condition code : String) (m n : Int) :
    (LeafBlock.mk condition (.int m) code).selectedBy (.int n) = (m == n) := by
  have helse : (LeafBlock.mk condition (.int m) code).isElse = false := rfl
  rw [LeafBlock.selectedBy, helse, Scalar.same_int]
  rfl

/-- The block of a case of a normalized dispatcher. -/
theorem leafBlock?_of_mem_arms_head (ht : t.HasDistinctFields) (h : t.IsDispatcher name)
    (hwritable : IsWritable lowerRanges name t) {arm : Option SelectorTest × Tree}
    (harm : arm ∈ (head lowerRanges t).arms) :
    ∃ m code, arm.1 = some (caseOf name m) ∧ Script.printStatements ((arm.2.blockBody?).getD []) = .ok code ∧
      leafBlock? name arm = some ⟨(caseOf name m).describe, .int m, code⟩ := by
  obtain ⟨m, -, branch, hbranch, rfl, hfields, hnone, hstatements⟩ := mem_arms_head ht h harm
  obtain ⟨code, hcode⟩ := exists_of_isOk (hwritable.1 branch hbranch)
  refine ⟨m, code, rfl, hcode, ?_⟩
  have hprinted : Script.printStatements (((head lowerRanges branch).blockBody?).getD []) = .ok code := hcode
  rw [leafBlock?, Option.filter_some, if_pos (tests_caseOf name m), Option.bind_some, hprinted]
  show (if code.isEmpty = true then none else _) = _
  rw [isEmpty_branchText hfields hnone hstatements hcode, if_neg Bool.false_ne_true]
  rfl

/-- A value is found among the blocks of a normalized dispatcher if the dispatcher answers it, and what is found is the
block of the branch that it takes. -/
theorem find?_blocks_head (ht : t.HasDistinctFields) (h : t.IsDispatcher name)
    (hwritable : IsWritable lowerRanges name t) (n : Int) :
    Option.Rel (IsBlockOf lowerRanges name n) (if n ∈ answeredValues name t then some t else none)
      (((head lowerRanges t).arms.filterMap (leafBlock? name)).find? (·.selectedBy (.int n))) := by
  have hselected : ∀ arm ∈ (head lowerRanges t).arms,
      (leafBlock? name arm).any (·.selectedBy (.int n)) = (arm.1 == some (caseOf name n)) := by
    intro arm harm
    obtain ⟨m, code, hcase, -, hblock⟩ := leafBlock?_of_mem_arms_head ht h hwritable harm
    rw [hblock, hcase, Option.any_some, selectedBy_int, Bool.eq_iff_iff, beq_iff_eq, beq_iff_eq, Option.some.injEq,
      caseOf_eq_iff]
  have hfind : ∀ σ : Valuation, σ.value (.text name) = n →
      ((head lowerRanges t).arms.find? fun arm => (leafBlock? name arm).any (·.selectedBy (.int n))) =
        if n ∈ answeredValues name t then some (some (caseOf name n), head lowerRanges (takenBranch σ t)) else none := by
    intro σ hσ
    rw [List.find?_congr hselected]
    exact find?_arms_head lowerRanges ht h hσ
  rw [List.find?_filterMap]
  have hsome := hfind ⟨fun _ => n, fun _ => false⟩ rfl
  by_cases hmem : n ∈ answeredValues name t
  · rw [if_pos hmem] at hsome
    obtain ⟨m, code, hcase, hprinted, hblock⟩ :=
      leafBlock?_of_mem_arms_head ht h hwritable (List.mem_of_find?_eq_some hsome)
    have hm : n = m := caseOf_eq_iff.mp (Option.some.inj hcase)
    subst hm
    rw [if_pos hmem, hsome, Option.bind_some, hblock]
    refine .some ⟨rfl, rfl, fun σ hσ => ?_⟩
    -- The branch that is taken does not depend on anything else.
    have hsame := (hfind σ hσ).symm.trans hsome
    rw [if_pos hmem, Option.some.injEq, Prod.mk.injEq] at hsame
    rw [branchText, hsame.2]
    exact hprinted
  · rw [if_neg hmem] at hsome
    rw [if_neg hmem, hsome, Option.bind_none]
    exact .none

/-- The first child that answers a value decides what is found among the blocks of all. -/
theorem find?_blocks_children {cs : List (Step × Tree)} (ht : ∀ c ∈ cs, c.2.HasDistinctFields)
    (h : ∀ c ∈ cs, c.2.IsDispatcher name ∨ (head lowerRanges c.2).arms.filterMap (leafBlock? name) = [])
    (hwritable : ∀ c ∈ cs, c.2.IsDispatcher name → IsWritable lowerRanges name c.2) (n : Int) :
    Option.Rel (IsBlockOf lowerRanges name n)
      ((cs.map Prod.snd).find? fun u => u.IsDispatcher name ∧ n ∈ answeredValues name u)
      ((cs.flatMap fun c => (head lowerRanges c.2).arms.filterMap (leafBlock? name)).find? (·.selectedBy (.int n))) := by
  induction cs with
  | nil => exact .none
  | cons c cs ih =>
    have hrest := ih (fun d hd => ht d (List.mem_cons_of_mem _ hd)) (fun d hd => h d (List.mem_cons_of_mem _ hd))
      fun d hd => hwritable d (List.mem_cons_of_mem _ hd)
    -- The blocks of the first child come first, and they decide if it is a dispatcher that answers the value.
    rw [List.map_cons, List.find?_cons, List.flatMap_cons, List.find?_append]
    by_cases hdispatch : c.2.IsDispatcher name
    · have hfirst := find?_blocks_head (ht c List.mem_cons_self) hdispatch (hwritable c List.mem_cons_self hdispatch) n
      by_cases hmem : n ∈ answeredValues name c.2
      · rw [if_pos hmem] at hfirst
        rw [decide_eq_true ⟨hdispatch, hmem⟩]
        cases hfound : ((head lowerRanges c.2).arms.filterMap (leafBlock? name)).find? (·.selectedBy (.int n)) with
        | none => rw [hfound] at hfirst; cases hfirst
        | some b =>
          rw [hfound] at hfirst
          rwa [Option.some_or]
      · rw [if_neg hmem] at hfirst
        rw [decide_eq_false fun hboth => hmem hboth.2]
        cases hfound : ((head lowerRanges c.2).arms.filterMap (leafBlock? name)).find? (·.selectedBy (.int n)) with
        | none => rwa [Option.none_or]
        | some b => rw [hfound] at hfirst; cases hfirst
    · have hnone : (head lowerRanges c.2).arms.filterMap (leafBlock? name) = [] := by
        rcases h c List.mem_cons_self with hdispatch' | hnone
        · exact absurd hdispatch' hdispatch
        · exact hnone
      rw [decide_eq_false fun hboth => hdispatch hboth.1, hnone, List.find?_nil, Option.none_or]
      exact hrest

/-- The blocks collected from a normalized dispatch program answer a value as its first dispatcher for the value does. -/
theorem lookup_collect (hname : name ≠ "") (ht : t.HasDistinctFields) (h : t.IsDispatchProgram name)
    (hwritable : ∀ c ∈ t.children, c.2.IsDispatcher name → IsWritable lowerRanges name c.2) (dropped : Nat) :
    ∃ table dropped', collect ⟨some name, dropped⟩ (ofTree t lowerRanges).tree = (.ok table, ⟨some name, dropped'⟩) ∧
      ∀ n, Option.Rel (IsBlockOf lowerRanges name n) (t.answering? name n) (table.lookup (.int n)) := by
  have hcond : t.isConditional = false := hasTag_of_ne h.isProgram (by decide)
  have hchildren := children_head lowerRanges ht hcond (hasTag_of_ne h.isProgram (by decide))
  have hcollected : ∀ c ∈ (head lowerRanges t).children, IsCollected name c.2 ∨ c.2.HasNoConditional := by
    intro c' hc'
    rw [hchildren] at hc'
    obtain ⟨c, hc, rfl⟩ := List.mem_map.mp hc'
    have hfields := ht.child hc
    cases hif : c.2.isConditional with
    | false => exact .inr (hasNoConditional_head lowerRanges hfields (h.others c hc hif))
    | true =>
      rcases h.chains c hc hif with hdispatch | ⟨hflat, htests⟩
      · exact .inl (isCollected_of_isDispatcher hfields hdispatch (hwritable c hc hdispatch))
      · exact .inl (isCollected_of_not_tests hfields hif hflat htests)
  -- What is no dispatcher is gone through, but contributes no block.
  have hblocks : ∀ c ∈ t.children,
      c.2.IsDispatcher name ∨ (head lowerRanges c.2).arms.filterMap (leafBlock? name) = [] := by
    intro c hc
    cases hif : c.2.isConditional with
    | false =>
      rw [arms_of_not_isConditional (by rwa [isConditional_head])]
      exact .inr rfl
    | true =>
      rcases h.chains c hc hif with hdispatch | ⟨hflat, htests⟩
      · exact .inl hdispatch
      · exact .inr (isCollectable_of_not_tests (tests_head_of_not_tests hif htests)).2
  obtain ⟨dropped', hcollect⟩ := collect_eq hname (hasDistinctFields_head lowerRanges ht)
    (by rwa [isConditional_head]) hcollected dropped
  rw [tree_ofTree ht]
  refine ⟨_, dropped', hcollect, fun n => ?_⟩
  rw [hchildren, List.flatMap_map]
  exact find?_blocks_children (fun c hc => ht.child hc) hblocks hwritable n

/-! ## Replaying an order -/

/-- If looking up integers finds what answers them, a replay lists the blocks of the positions that are answered, in
order, and sets the other positions apart. -/
theorem startingAt_of_lookup {α : Type} {answer : Int → Option α} {IsAnswer : Int → α → LeafBlock → Prop}
    {table : BlockTable} (h : ∀ n, Option.Rel (IsAnswer n) (answer n) (table.lookup (.int n))) (label : String)
    (position : Nat) (flow : List Int) :
    List.Forall₂ (fun q block => ∃ u b, answer q.1 = some u ∧ IsAnswer q.1 u b ∧
          block = (Replay.heading label q.2 b, b.code))
        ((flow.zipIdx position).filter fun q => (answer q.1).isSome)
        (Replay.startingAt label table position (flow.map .int)).blocks ∧
      (Replay.startingAt label table position (flow.map .int)).unmatched =
        ((flow.zipIdx position).filter fun q => (answer q.1).isNone).map Prod.snd := by
  induction flow generalizing position with
  | nil => exact ⟨.nil, rfl⟩
  | cons n flow ih =>
    obtain ⟨hblocks, hunmatched⟩ := ih (position + 1)
    have hn := h n
    -- The first position gets a block or is set apart; the assumption decides which from the answer alone.
    rw [List.zipIdx_cons, List.map_cons, List.filter_cons, List.filter_cons, Replay.startingAt]
    cases hanswer : answer n with
    | none =>
      cases hlookup : table.lookup (.int n) with
      | some b => rw [hanswer, hlookup] at hn; cases hn
      | none => exact ⟨hblocks, congrArg (position :: ·) hunmatched⟩
    | some u =>
      cases hlookup : table.lookup (.int n) with
      | none => rw [hanswer, hlookup] at hn; cases hn
      | some b =>
        rw [hanswer, hlookup] at hn
        cases hn with
        | some hb => exact ⟨.cons ⟨u, b, hanswer, hb, rfl⟩ hblocks, hunmatched⟩

/-- The order of a dispatch program is replayed against the blocks collected from the normalized script. A position gets
a block if some dispatcher answers the value there; its code is the normalized text of the branch that the first such
dispatcher takes in the script as it was. Every other position is set apart. -/
theorem replay_collect (hname : name ≠ "") (ht : t.HasDistinctFields) (h : t.IsDispatchProgram name)
    (hwritable : ∀ c ∈ t.children, c.2.IsDispatcher name → IsWritable lowerRanges name c.2) (dropped : Nat) :
    ∃ table dropped', collect ⟨some name, dropped⟩ (ofTree t lowerRanges).tree = (.ok table, ⟨some name, dropped'⟩) ∧
      ∀ (label : String) (flow : List Int) (origin : Origin),
        List.Forall₂ (fun q block => ∃ u b, t.answering? name q.1 = some u ∧ IsBlockOf lowerRanges name q.1 u b ∧
              block = (Replay.heading label q.2 b, b.code))
            (flow.zipIdx.filter fun q => (t.answering? name q.1).isSome)
            (Replay.ofOrder label table ⟨flow.map .int, origin⟩).blocks ∧
          (Replay.ofOrder label table ⟨flow.map .int, origin⟩).unmatched =
            (flow.zipIdx.filter fun q => (t.answering? name q.1).isNone).map Prod.snd := by
  obtain ⟨table, dropped', hcollect, hlookup⟩ := lookup_collect hname ht h hwritable dropped
  exact ⟨table, dropped', hcollect, fun label flow _ => startingAt_of_lookup hlookup label 0 flow⟩

/-- The script `if (s === 0) { a(); } else if (s === 2) { b(); } else { c(); } if (x < 5) { d(); } g();
if (s === 3) { e(); } else if (s === 0) { f(); }`. -/
def twoDispatchers : Tree :=
  scriptOf [.ifThen (caseOf "s" 0).toTree (blockOf [callOf "a"])
      (.ifThen (caseOf "s" 2).toTree (blockOf [callOf "b"]) (blockOf [callOf "c"])),
    .ifThen (SelectorTest.toTree ⟨.text "x", SelectorTest.lessThan, .int 5⟩) (blockOf [callOf "d"]) .null, callOf "g",
    .ifThen (caseOf "s" 3).toTree (blockOf [callOf "e"])
      (.ifThen (caseOf "s" 0).toTree (blockOf [callOf "f"]) .null)]

/-- Of the order 3, 0, 7, 2 the script answers all values but the third. -/
theorem replay_collect_twoDispatchers :
    "s" ≠ "" ∧ twoDispatchers.HasDistinctFields ∧ twoDispatchers.IsDispatchProgram "s" ∧
      (∀ c ∈ twoDispatchers.children, c.2.IsDispatcher "s" → IsWritable true "s" c.2) ∧
        ∃ table collector, collect ⟨some "s", 0⟩ (ofTree twoDispatchers true).tree = (.ok table, collector) ∧
          (Replay.ofOrder "step" table ⟨[3, 0, 7, 2].map .int, .declaration⟩).unmatched = [2] ∧
            (Replay.ofOrder "step" table ⟨[3, 0, 7, 2].map .int, .declaration⟩).blocks.length = 3 := by
  have hname : "s" ≠ "" := by decide
  have hfields : twoDispatchers.HasDistinctFields := by decide +kernel
  have hprogram : twoDispatchers.IsDispatchProgram "s" := by decide +kernel
  have hwritable : ∀ c ∈ twoDispatchers.children, c.2.IsDispatcher "s" → IsWritable true "s" c.2 := by decide +kernel
  obtain ⟨table, dropped', hcollect, hreplay⟩ := replay_collect hname hfields hprogram hwritable 0
  obtain ⟨hblocks, hunmatched⟩ := hreplay "step" [3, 0, 7, 2] .declaration
  refine ⟨hname, hfields, hprogram, hwritable, table, _, hcollect, ?_, ?_⟩
  · rw [hunmatched]
    decide +kernel
  · rw [← hblocks.length_eq]
    decide +kernel

end Normalized
end Deflatten
