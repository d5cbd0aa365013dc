import Deflatten.BlockCollector
import Deflatten.Proofs.Tree.FlatChains
/-!
# Collected blocks

In a tree of flat chains, the blocks that the collector finds are those of the chains in document order, and the blocks
of a chain are those of its branches in chain order (`BlockCollector.collect_eq`). The collector visits every member of
a chain, but takes the chain only once: the invariant is that the conditionals taken so far stand below the children that
have been gone through.
-/

namespace Deflatten.BlockCollector

open Deflatten.Tree

/-- A step of a collection succeeds and leads from one state to another. -/
def Reaches (x : Collecting Unit) (s s' : Progress) : Prop := x.run.run s = (.ok (), s')

variable {name : String} {t : Tree} {s s₁ s₂ : Progress}

theorem reaches_pure (s : Progress) : Reaches (pure ()) s s := rfl

theorem Reaches.eq {x : Collecting Unit} (h : Reaches x s s₁) (h' : Reaches x s s₂) : s₁ = s₂ :=
  congrArg Prod.snd (h.symm.trans h')

theorem Reaches.bind {x : Collecting Unit} {f : Unit → Collecting Unit} (hx : Reaches x s s₁)
    (hf : Reaches (f ()) s₁ s₂) : Reaches (x >>= f) s s₂ := by
  rw [Reaches, ExceptT.run_bind, StateT.run_bind, hx]
  exact hf

/-- Of two steps that succeed one after the other each succeeds. -/
theorem Reaches.exists_of_bind {x : Collecting Unit} {f : Unit → Collecting Unit} (h : Reaches (x >>= f) s s₂) :
    ∃ s₁, Reaches x s s₁ ∧ Reaches (f ()) s₁ s₂ := by
  rw [Reaches, ExceptT.run_bind, StateT.run_bind] at h
  cases hx : x.run.run s with
  | mk result s₁ =>
    rw [hx] at h
    cases result with
    | ok _ => exact ⟨s₁, hx, h⟩
    | error _ => cases h

theorem Reaches.cons {α : Type} {f : α → Collecting Unit} {a : α} {as : List α} (ha : Reaches (f a) s s₁)
    (has : Reaches (as.forM f) s₁ s₂) : Reaches ((a :: as).forM f) s s₂ :=
  ha.bind has

theorem Reaches.exists_of_cons {α : Type} {f : α → Collecting Unit} {a : α} {as : List α}
    (h : Reaches ((a :: as).forM f) s s₂) : ∃ s₁, Reaches (f a) s s₁ ∧ Reaches (as.forM f) s₁ s₂ :=
  h.exists_of_bind

/-- What each step keeps, all of them keep. -/
theorem Reaches.forM_induction {α : Type} {f : α → Collecting Unit} {as : List α} {P : Progress → Prop}
    (h : Reaches (as.forM f) s s₁) (hs : P s)
    (hstep : ∀ a ∈ as, ∀ {s s₁}, Reaches (f a) s s₁ → P s → P s₁) : P s₁ := by
  induction as generalizing s with
  | nil => exact h.eq (reaches_pure s) ▸ hs
  | cons a as ih =>
    obtain ⟨s', hfirst, hrest⟩ := h.exists_of_cons
    exact ih hrest (hstep a List.mem_cons_self hfirst hs) fun a ha => hstep a (List.mem_cons_of_mem _ ha)

/-! ## Branches -/

/-- The block of a branch, if its test is an equality test of the variable and it has code. -/
def leafBlock? (name : String) (arm : Option SelectorTest × Tree) : Option LeafBlock :=
  (arm.1.filter (·.tests (.text name))).bind fun test =>
    match Script.printStatements ((arm.2.blockBody?).getD []) with
    | .ok code => if code.isEmpty then none else some ⟨test.describe, .number test.value, code⟩
    | .error _ => none

/-- What a branch that tests the variable gives can be written. -/
def IsWritten (name : String) (arm : Option SelectorTest × Tree) : Prop :=
  ∀ test, arm.1 = some test → test.tests (.text name) →
    test.value.isWritable ∧ ∃ code, Script.printStatements ((arm.2.blockBody?).getD []) = .ok code

theorem reaches_drop (s : Progress) : Reaches drop s { s with dropped := s.dropped + 1 } := rfl

/-- To keep or drop a branch that can be written succeeds. -/
theorem exists_reaches_keepOrDrop (s : Progress) (condition : String) {value : Scalar} {body : List Tree} {code : String}
    (hcode : Script.printStatements body = .ok code) (hvalue : value.isWritable) :
    ∃ s', Reaches (keepOrDrop condition value body) s s' := by
  rw [keepOrDrop, hcode]
  show ∃ s', Reaches (if code.isEmpty then drop else if value.isWritable then keep ⟨condition, value, code⟩ else _) s s'
  rw [if_pos hvalue]
  cases code.isEmpty with
  | true => exact ⟨_, reaches_drop s⟩
  | false => exact ⟨_, rfl⟩

/-- To keep or drop a branch that can be printed counts it as dropped if it has no code, and adds its block if it has and its
value can be written. -/
theorem keepOrDrop_cases {condition : String} {value : Scalar} {body : List Tree}
    (h : Reaches (keepOrDrop condition value body) s s₁) :
    ∃ code, Script.printStatements body = .ok code ∧
      ((code.isEmpty = true ∧ s₁ = { s with dropped := s.dropped + 1 }) ∨
        (code.isEmpty = false ∧ value.isWritable ∧ s₁ = { s with table := s.table.push ⟨condition, value, code⟩ })) := by
  rw [keepOrDrop] at h
  cases hcode : Script.printStatements body with
  | error e =>
    rw [hcode] at h
    cases h
  | ok code =>
    rw [hcode] at h
    have h : Reaches (if code.isEmpty then drop else if value.isWritable then keep ⟨condition, value, code⟩
      else throw .longInteger) s s₁ := h
    refine ⟨code, rfl, ?_⟩
    cases hempty : code.isEmpty with
    | true =>
      rw [hempty, if_pos rfl] at h
      exact .inl ⟨rfl, h.eq (reaches_drop s)⟩
    | false =>
      rw [hempty, if_neg Bool.false_ne_true] at h
      split at h
      · rename_i hwritable
        exact .inr ⟨rfl, hwritable, (congrArg Prod.snd h).symm⟩
      · cases h

/-- To keep or drop a branch adds its block, if it has code. -/
theorem blocks_of_keepOrDrop {condition : String} {value : Scalar} {body : List Tree}
    (h : Reaches (keepOrDrop condition value body) s s₁) :
    s₁.covered = s.covered ∧ s₁.table.blocks = s.table.blocks ++
      (match Script.printStatements body with
        | .ok code => if code.isEmpty then none else some (⟨condition, value, code⟩ : LeafBlock)
        | .error _ => none).toList := by
  obtain ⟨code, hcode, ⟨hempty, rfl⟩ | ⟨hempty, -, rfl⟩⟩ := keepOrDrop_cases h
  · rw [hcode]
    dsimp only
    rw [if_pos hempty]
    exact ⟨rfl, (List.append_nil _).symm⟩
  · rw [hcode]
    dsimp only
    rw [hempty, if_neg Bool.false_ne_true]
    exact ⟨rfl, rfl⟩

theorem exists_reaches_takeBranch {branch : Tree} (s : Progress)
    (h : IsWritten name (SelectorTest.ofConditional? branch, branch.get "consequent")) :
    ∃ s', Reaches (takeBranch name branch) s s' := by
  rw [takeBranch, branchTest?]
  cases htest : (SelectorTest.ofConditional? branch).filter (·.tests (.text name)) with
  | none => exact ⟨_, reaches_drop s⟩
  | some test =>
    obtain ⟨hown, htests⟩ := Option.filter_eq_some_iff.mp htest
    obtain ⟨hvalue, code, hcode⟩ := h test hown htests
    exact exists_reaches_keepOrDrop s test.describe hcode hvalue

/-- To take a branch adds its block, if it has one. -/
theorem blocks_of_takeBranch {branch : Tree} (h : Reaches (takeBranch name branch) s s₁) :
    s₁.covered = s.covered ∧ s₁.table.blocks = s.table.blocks ++
      (leafBlock? name (SelectorTest.ofConditional? branch, branch.get "consequent")).toList := by
  rw [takeBranch, branchTest?] at h
  rw [leafBlock?]
  cases htest : (SelectorTest.ofConditional? branch).filter (·.tests (.text name)) with
  | none =>
    rw [htest] at h
    rw [h.eq (reaches_drop s)]
    exact ⟨rfl, (List.append_nil _).symm⟩
  | some test =>
    rw [htest] at h
    exact blocks_of_keepOrDrop h

/-! ## Chains -/

theorem exists_reaches_takeBranches {members : List Tree} (s : Progress)
    (h : ∀ member ∈ members, IsWritten name (SelectorTest.ofConditional? member, member.get "consequent")) :
    ∃ s', Reaches (members.forM (takeBranch name)) s s' := by
  induction members generalizing s with
  | nil => exact ⟨s, reaches_pure s⟩
  | cons member members ih =>
    obtain ⟨s₁, hfirst⟩ := exists_reaches_takeBranch s (h member List.mem_cons_self)
    obtain ⟨s₂, hrest⟩ := ih s₁ fun m hm => h m (List.mem_cons_of_mem _ hm)
    exact ⟨s₂, hfirst.cons hrest⟩

/-- To take members of a chain adds their blocks in chain order. -/
theorem blocks_of_takeBranches {members : List Tree} (h : Reaches (members.forM (takeBranch name)) s s₁) :
    s₁.covered = s.covered ∧ s₁.table.blocks = s.table.blocks ++
      (members.map fun member => (SelectorTest.ofConditional? member, member.get "consequent")).filterMap
        (leafBlock? name) := by
  induction members generalizing s with
  | nil =>
    rw [h.eq (reaches_pure s)]
    exact ⟨rfl, (List.append_nil _).symm⟩
  | cons member members ih =>
    obtain ⟨s', hfirst, hrest⟩ := h.exists_of_cons
    obtain ⟨hcovered, hblocks⟩ := blocks_of_takeBranch hfirst
    obtain ⟨hcovered', hblocks'⟩ := ih hrest
    refine ⟨hcovered'.trans hcovered, ?_⟩
    rw [hblocks', hblocks, List.append_assoc, List.map_cons, List.filterMap_cons]
    cases leafBlock? name (SelectorTest.ofConditional? member, member.get "consequent") <;> rfl

/-- The block of the final `else` of a chain, if it has code and some member tests the variable. -/
def elseBlock? (name : String) (t : Tree) : Option LeafBlock :=
  if t.chain.any fun branch => (branchTest? name branch).isSome then
    t.finalElse.blockBody?.bind fun body =>
      match Script.printStatements body with
      | .ok code => if code.isEmpty then none else some ⟨LeafBlock.elseTag, .text LeafBlock.elseTag, code⟩
      | .error _ => none
  else none

/-- The blocks of a chain: those of its members in chain order, and then that of its final `else`. -/
def chainBlocks (name : String) (t : Tree) : List LeafBlock :=
  t.arms.filterMap (leafBlock? name) ++ (elseBlock? name t).toList

/-- To take a chain adds its blocks. -/
theorem blocks_of_takeChain (h : Reaches (takeChain name t) s s₁) :
    s₁.covered = s.covered ∧ s₁.table.blocks = s.table.blocks ++ chainBlocks name t := by
  obtain ⟨s', hmembers, hlast⟩ := h.exists_of_bind
  obtain ⟨hcovered, hblocks⟩ := blocks_of_takeBranches hmembers
  -- What is left is the final `else`, which is taken only if there is one and some member tests the variable.
  have helse : s₁.covered = s'.covered ∧ s₁.table.blocks = s'.table.blocks ++ (elseBlock? name t).toList := by
    rw [← finalElse] at hlast
    rw [elseBlock?]
    cases hbody : t.finalElse.blockBody? with
    | none =>
      rw [hbody] at hlast
      rw [hlast.eq (reaches_pure s'), Option.bind_none, ite_self]
      exact ⟨rfl, (List.append_nil _).symm⟩
    | some body =>
      rw [hbody] at hlast
      cases hany : t.chain.any fun branch => (branchTest? name branch).isSome with
      | false =>
        rw [hany] at hlast
        rw [hlast.eq (reaches_pure s'), if_neg Bool.false_ne_true]
        exact ⟨rfl, (List.append_nil _).symm⟩
      | true =>
        rw [hany] at hlast
        rw [if_pos rfl]
        exact blocks_of_keepOrDrop hlast
  refine ⟨helse.1.trans hcovered, ?_⟩
  rw [helse.2, hblocks, List.append_assoc]
  rfl

/-- To take a chain whose branches can be written succeeds. -/
theorem exists_reaches_takeChain (s : Progress) (hwritten : ∀ arm ∈ t.arms, IsWritten name arm)
    (helse : ∀ body, t.finalElse.blockBody? = some body →
      (t.chain.any fun branch => (branchTest? name branch).isSome) → ∃ code, Script.printStatements body = .ok code) :
    ∃ s', Reaches (takeChain name t) s s' := by
  obtain ⟨s₁, hmembers⟩ := exists_reaches_takeBranches s fun member hmember => hwritten _ (List.mem_map_of_mem hmember)
  rw [takeChain, ← finalElse]
  cases hbody : t.finalElse.blockBody? with
  | none => exact ⟨s₁, hmembers.bind (reaches_pure s₁)⟩
  | some body =>
    cases hany : t.chain.any fun branch => (branchTest? name branch).isSome with
    | false => exact ⟨s₁, hmembers.bind (reaches_pure s₁)⟩
    | true =>
      obtain ⟨code, hcode⟩ := helse body hbody hany
      have hvalue : (Scalar.text LeafBlock.elseTag).isWritable := rfl
      obtain ⟨s₂, hlast⟩ := exists_reaches_keepOrDrop s₁ LeafBlock.elseTag hcode hvalue
      exact ⟨s₂, hmembers.bind hlast⟩

/-- The branches of a chain that test the variable can be written, and the chain ends in no block or tests another. -/
structure IsCollectable (name : String) (t : Tree) : Prop where
  written : ∀ arm ∈ t.arms, IsWritten name arm
  rest : t.finalElse.isBlock = false ∨ ∀ test ∈ t.chainTests, test.tests (.text name) = false

theorem any_branchTest? (h : ∀ test ∈ t.chainTests, test.tests (.text name) = false) :
    (t.chain.any fun branch => (branchTest? name branch).isSome) = false := by
  rw [List.any_eq_false]
  intro branch hbranch hsome
  obtain ⟨test, htest⟩ := Option.isSome_iff_exists.mp hsome
  obtain ⟨hown, htests⟩ := Option.filter_eq_some_iff.mp htest
  rw [h test (List.mem_filterMap.mpr ⟨branch, hbranch, hown⟩)] at htests
  cases htests

/-- Where the chain ends in no block or tests another variable, nothing is taken of its final `else`. -/
theorem IsCollectable.reaches_takeChain (s : Progress) (h : IsCollectable name t) :
    ∃ s', Reaches (takeChain name t) s s' ∧ s'.covered = s.covered ∧
      s'.table.blocks = s.table.blocks ++ t.arms.filterMap (leafBlock? name) := by
  have hnothing : ∀ body, t.finalElse.blockBody? = some body →
      (t.chain.any fun branch => (branchTest? name branch).isSome) = false := by
    intro body hbody
    rcases h.rest with hblock | htests
    · rw [blockBody?, hblock, if_neg Bool.false_ne_true] at hbody
      cases hbody
    · exact any_branchTest? htests
  have hnone : elseBlock? name t = none := by
    rw [elseBlock?]
    cases hbody : t.finalElse.blockBody? with
    | none => exact ite_self _
    | some body => rw [hnothing body hbody, if_neg Bool.false_ne_true]
  obtain ⟨s', hreaches⟩ := exists_reaches_takeChain s h.written fun body hbody hany => by
    rw [hnothing body hbody] at hany
    cases hany
  obtain ⟨hcovered, hblocks⟩ := blocks_of_takeChain hreaches
  refine ⟨s', hreaches, hcovered, ?_⟩
  rw [hblocks, chainBlocks, hnone]
  exact congrArg _ (List.append_nil _)

/-! ## Visits -/

/-- The visit of a conditional at a place. Nothing else about a visit matters. -/
def visitPlace (name : String) (q : TreePath × Tree) : Collecting Unit := visit name ⟨q.2, none, none, 0, q.1⟩

theorem forM_visit (name : String) (t : Tree) :
    t.conditionals.forM (visit name) = t.places.forM (visitPlace name) := by
  rw [places, List.forM_eq_forM, List.forM_eq_forM, List.forM_map]
  rfl

/-- A visit passes by what has been covered or is not bottom-level. Otherwise it takes the chain and covers its members. -/
theorem run_visitPlace (name : String) (q : TreePath × Tree) (s : Progress) : (visitPlace name q).run.run s =
    (if s.covered.contains q.1 || !q.2.isBottomLevel then pure () else
      takeChain name q.2 >>= fun _ => modify fun s => { s with
        covered := ((List.range q.2.chain.length).map fun k => q.1 ++ chainPath k) ++ s.covered } :
      Collecting Unit).run.run s := rfl

theorem reaches_visit_skipped {q : TreePath × Tree} (h : s.covered.contains q.1 || !q.2.isBottomLevel) :
    Reaches (visitPlace name q) s s := by
  rw [Reaches, run_visitPlace, if_pos h]
  rfl

/-- A visit that takes the chain covers its members. -/
theorem reaches_visit_taken {q : TreePath × Tree} (h : (s.covered.contains q.1 || !q.2.isBottomLevel) = false)
    (hchain : Reaches (takeChain name q.2) s s₁) :
    Reaches (visitPlace name q) s
      { s₁ with covered := ((List.range q.2.chain.length).map fun k => q.1 ++ chainPath k) ++ s₁.covered } := by
  rw [Reaches, run_visitPlace, h, if_neg Bool.false_ne_true]
  exact hchain.bind rfl

theorem reaches_takeChain_of_visit {q : TreePath × Tree}
    (h : (s.covered.contains q.1 || !q.2.isBottomLevel) = false) (hvisit : Reaches (visitPlace name q) s s₂) :
    ∃ s₁, Reaches (takeChain name q.2) s s₁ ∧
      s₂ = { s₁ with covered := ((List.range q.2.chain.length).map fun k => q.1 ++ chainPath k) ++ s₁.covered } := by
  rw [Reaches, run_visitPlace, h, if_neg Bool.false_ne_true] at hvisit
  obtain ⟨s₁, hchain, hcovered⟩ := Reaches.exists_of_bind hvisit
  exact ⟨s₁, hchain, hcovered.eq rfl⟩

theorem reaches_visits_covered {qs : List (TreePath × Tree)} (h : ∀ q ∈ qs, q.1 ∈ s.covered) :
    Reaches (qs.forM (visitPlace name)) s s := by
  induction qs with
  | nil => exact reaches_pure s
  | cons q qs ih =>
    have hcovered : s.covered.contains q.1 := List.contains_iff_mem.mpr (h q List.mem_cons_self)
    refine Reaches.cons (reaches_visit_skipped ?_) (ih fun q' hq' => h q' (List.mem_cons_of_mem _ hq'))
    rw [hcovered, Bool.true_or]

/-- What a stretch of a collection did: it added blocks, and covered no more than what lies below a step. -/
def Adds (step : Step) (blocks : List LeafBlock) (s s' : Progress) : Prop :=
  s'.table.blocks = s.table.blocks ++ blocks ∧ ∀ p ∈ s'.covered, p ∈ s.covered ∨ p.head? = some step

theorem Adds.refl (step : Step) (s : Progress) : Adds step [] s s :=
  ⟨(List.append_nil _).symm, fun _ hp => .inl hp⟩

theorem Adds.trans {step : Step} {blocks blocks' : List LeafBlock} (h : Adds step blocks s s₁)
    (h' : Adds step blocks' s₁ s₂) : Adds step (blocks ++ blocks') s s₂ := by
  refine ⟨by rw [h'.1, h.1, List.append_assoc], fun p hp => ?_⟩
  rcases h'.2 p hp with hp | hp
  · exact h.2 p hp
  · exact .inr hp

/-- A visit that takes the chain at a place below a step adds the blocks of the chain. -/
theorem adds_of_taken {step : Step} {p : TreePath} {member : Tree}
    (h : (s.covered.contains (step :: p) || !member.isBottomLevel) = false) (hchain : IsCollectable name member) :
    ∃ s', Reaches (visitPlace name (step :: p, member)) s s' ∧
      Adds step (member.arms.filterMap (leafBlock? name)) s s' ∧
        ∀ k < member.chain.length, step :: (p ++ chainPath k) ∈ s'.covered := by
  obtain ⟨s₁, hreaches, hcovered, hblocks⟩ := hchain.reaches_takeChain s
  refine ⟨_, reaches_visit_taken h hreaches, ⟨hblocks, fun q hq => ?_⟩, fun k hk => ?_⟩
  · rcases List.mem_append.mp hq with hnew | hold
    · obtain ⟨k, -, rfl⟩ := List.mem_map.mp hnew
      exact .inr rfl
    · exact .inl (hcovered ▸ hold)
  · exact List.mem_append_left _ (List.mem_map.mpr ⟨k, List.mem_range.mpr hk, rfl⟩)

/-- Without a variable nothing is collected. -/
theorem collect_of_nothing {c : BlockCollector} (h : c.variableName = none ∨ c.variableName = some "") (t : Tree) :
    collect c t = (.ok {}, c) := by
  rw [collect]
  rcases h with hname | hname <;> simp only [hname]

theorem exists_name_of_not_nothing {c : BlockCollector} (h : ¬(c.variableName = none ∨ c.variableName = some "")) :
    ∃ name, c.variableName = some name ∧ name ≠ "" := by
  obtain ⟨hnone, hblank⟩ := not_or.mp h
  obtain ⟨name, hname⟩ := Option.ne_none_iff_exists'.mp hnone
  exact ⟨name, hname, fun hempty => hblank (hempty ▸ hname)⟩

/-- The visits of all `if` statements of a tree. -/
def visits (name : String) (t : Tree) (dropped : Nat) : Except Script.Error Unit × Progress :=
  (t.places.forM (visitPlace name)).run.run ⟨{}, dropped, []⟩

/-- To collect the blocks of a tree is to visit its `if` statements. -/
theorem collect_eq_visits {c : BlockCollector} (hname : c.variableName = some name) (hne : name ≠ "") (t : Tree) :
    collect c t = ((visits name t c.dropped).1.map fun _ => (visits name t c.dropped).2.table,
      { c with dropped := (visits name t c.dropped).2.dropped }) := by
  rw [collect, hname]
  split
  · rename_i hnone
    cases hnone
  · rename_i hblank
    exact absurd (Option.some.inj hblank) hne
  · rename_i name' _ hsome
    cases hsome
    rw [visits, forM_visit]
    rfl

theorem collect_of_reaches (hname : name ≠ "") {dropped : Nat}
    (h : Reaches (t.places.forM (visitPlace name)) ⟨{}, dropped, []⟩ s) :
    collect ⟨some name, dropped⟩ t = (.ok s.table, ⟨some name, s.dropped⟩) := by
  rw [collect_eq_visits rfl hname, visits, h]
  rfl

/-- A collection that gives a table has visited all `if` statements. -/
theorem reaches_of_collect {c c' : BlockCollector} {table : BlockTable} (hname : c.variableName = some name)
    (hne : name ≠ "") (h : collect c t = (.ok table, c')) :
    ∃ s, Reaches (t.places.forM (visitPlace name)) ⟨{}, c.dropped, []⟩ s ∧ table = s.table := by
  rw [collect_eq_visits hname hne, visits] at h
  cases hrun : (t.places.forM (visitPlace name)).run.run ⟨{}, c.dropped, []⟩ with
  | mk result s =>
    rw [hrun] at h
    cases result with
    | ok _ => exact ⟨s, hrun, (Except.ok.inj (Prod.mk.inj h).1).symm⟩
    | error _ => cases (Prod.mk.inj h).1

/-! ## Flat chains -/

/-- A flat chain that does not test the variable, or whose head is bottom-level and that can be collected. -/
structure IsCollected (name : String) (t : Tree) : Prop where
  isConditional : t.isConditional
  isFlatChain : t.IsFlatChain
  tests : (∀ test ∈ t.chainTests, test.tests (.text name) = false) ∨ t.isBottomLevel ∧ IsCollectable name t

theorem chainTests_subset_of_mem_chain {member : Tree} (h : member ∈ t.chain) :
    ∀ test ∈ member.chainTests, test ∈ t.chainTests := by
  induction t using chain_induction with
  | stop t hstop =>
    rw [chain_of_not_isConditional hstop] at h
    cases h
  | member t hcond ih =>
    intro test htest
    rw [chain_eq hcond] at h
    rcases List.mem_cons.mp h with rfl | h
    · exact htest
    · rw [chainTests_eq hcond]
      exact List.mem_append_right _ (ih h test htest)

/-- A chain that does not test the variable has no blocks. -/
theorem isCollectable_of_not_tests (h : ∀ test ∈ t.chainTests, test.tests (.text name) = false) :
    IsCollectable name t ∧ t.arms.filterMap (leafBlock? name) = [] := by
  have harms : ∀ arm ∈ t.arms, ∀ test, arm.1 = some test → test.tests (.text name) = false := by
    intro arm harm test htest
    refine h test ?_
    rw [chainTests_eq_arms]
    exact List.mem_filterMap.mpr ⟨arm, harm, htest⟩
  refine ⟨⟨fun arm harm test htest htests => ?_, .inr h⟩, ?_⟩
  · rw [harms arm harm test htest] at htests
    cases htests
  · rw [List.filterMap_eq_nil_iff]
    intro arm harm
    have hnone : arm.1.filter (·.tests (.text name)) = none := by
      rw [Option.filter_eq_none_iff]
      intro test htest
      rw [harms arm harm test htest]
      exact Bool.false_ne_true
    rw [leafBlock?, hnone, Option.bind_none]

/-- The members of a chain that does not test the variable add nothing, whichever of them are taken. -/
theorem reaches_members_of_not_tests (step : Step) (h : ∀ test ∈ t.chainTests, test.tests (.text name) = false)
    {members : List (Tree × Nat)} (hmembers : ∀ m ∈ members, m.1 ∈ t.chain) (s : Progress) :
    ∃ s', Reaches ((members.map fun m => placeBelow step (chainPath m.2, m.1)).forM (visitPlace name)) s s' ∧
      Adds step [] s s' := by
  induction members generalizing s with
  | nil => exact ⟨s, reaches_pure s, .refl step s⟩
  | cons m members ih =>
    have hrest := ih fun m' hm' => hmembers m' (List.mem_cons_of_mem _ hm')
    cases hskip : s.covered.contains (step :: chainPath m.2) || !m.1.isBottomLevel with
    | true =>
      obtain ⟨s', hreaches, hadds⟩ := hrest s
      exact ⟨s', Reaches.cons (reaches_visit_skipped hskip) hreaches, hadds⟩
    | false =>
      have hmember : ∀ test ∈ m.1.chainTests, test.tests (.text name) = false := fun test htest =>
        h test (chainTests_subset_of_mem_chain (hmembers m List.mem_cons_self) test htest)
      obtain ⟨hchain, hnone⟩ := isCollectable_of_not_tests hmember
      obtain ⟨s₁, hfirst, hadds, -⟩ := adds_of_taken hskip hchain
      rw [hnone] at hadds
      obtain ⟨s₂, hothers, hadds'⟩ := hrest s₁
      exact ⟨s₂, Reaches.cons hfirst hothers, hadds.trans hadds'⟩

/-- The conditionals of a flat chain below a fresh step add the blocks of the chain. -/
theorem reaches_chain (step : Step) (ht : t.HasDistinctFields) (h : IsCollected name t) (s : Progress)
    (hfresh : ∀ p ∈ s.covered, p.head? ≠ some step) :
    ∃ s', Reaches ((t.places.map (placeBelow step)).forM (visitPlace name)) s s' ∧
      Adds step (t.arms.filterMap (leafBlock? name)) s s' := by
  rw [places_of_isFlatChain ht h.isConditional h.isFlatChain, List.map_map]
  rcases h.tests with htests | ⟨hbottom, hchain⟩
  · rw [(isCollectable_of_not_tests htests).2]
    exact reaches_members_of_not_tests step htests (fun m hm => List.fst_mem_of_mem_zipIdx hm) s
  · -- The head is taken, and with it all the members.
    have hskip : (s.covered.contains [step] || !t.isBottomLevel) = false := by
      have hnew : s.covered.contains [step] = false := by
        rw [List.contains_eq_mem, decide_eq_false_iff_not]
        exact fun hmem => hfresh [step] hmem rfl
      rw [hnew, hbottom]
      rfl
    obtain ⟨s', hreaches, hadds, hcovered⟩ := adds_of_taken (p := []) hskip hchain
    refine ⟨s', ?_, hadds⟩
    have hplaces : ∀ q ∈ (t.get "alternate").chain.zipIdx 1,
        (placeBelow step (chainPath q.2, q.1)).1 ∈ s'.covered := by
      intro q hq
      refine hcovered q.2 ?_
      have hlt := List.snd_lt_of_mem_zipIdx hq
      rw [chain_eq h.isConditional, List.length_cons]
      omega
    rw [chain_eq h.isConditional, List.zipIdx_cons, List.map_cons]
    refine hreaches.cons (reaches_visits_covered fun q hq => ?_)
    obtain ⟨m, hm, rfl⟩ := List.mem_map.mp hq
    exact hplaces m hm

/-! ## Trees of flat chains -/

/-- The children of a node add their blocks in order. -/
theorem reaches_children {cs : List (Step × Tree)} (hnodup : (cs.map Prod.fst).Nodup)
    (ht : ∀ c ∈ cs, c.2.HasDistinctFields) (h : ∀ c ∈ cs, IsCollected name c.2 ∨ c.2.HasNoConditional) (s : Progress)
    (hfresh : ∀ c ∈ cs, ∀ p ∈ s.covered, p.head? ≠ some c.1) :
    ∃ s', Reaches ((cs.flatMap fun c => c.2.places.map (placeBelow c.1)).forM (visitPlace name)) s s' ∧
      s'.table.blocks = s.table.blocks ++ cs.flatMap fun c => c.2.arms.filterMap (leafBlock? name) := by
  induction cs generalizing s with
  | nil => exact ⟨s, reaches_pure s, (List.append_nil _).symm⟩
  | cons c cs ih =>
    rw [List.map_cons, List.nodup_cons] at hnodup
    have hfirst : ∃ s₁, Reaches ((c.2.places.map (placeBelow c.1)).forM (visitPlace name)) s s₁ ∧
        Adds c.1 (c.2.arms.filterMap (leafBlock? name)) s s₁ := by
      rcases h c List.mem_cons_self with hchain | hnone
      · exact reaches_chain c.1 (ht c List.mem_cons_self) hchain s (hfresh c List.mem_cons_self)
      · rw [places_of_hasNoConditional hnone, arms_of_not_isConditional hnone.self]
        exact ⟨s, reaches_pure s, .refl c.1 s⟩
    obtain ⟨s₁, hreaches, hblocks, hcovered⟩ := hfirst
    -- What has been covered lies below this child, so the others are still fresh.
    have hfresh₁ : ∀ d ∈ cs, ∀ p ∈ s₁.covered, p.head? ≠ some d.1 := by
      intro d hd p hp
      rcases hcovered p hp with hold | hnew
      · exact hfresh d (List.mem_cons_of_mem _ hd) p hold
      · intro hsame
        have hstep : c.1 = d.1 := Option.some.inj (hnew.symm.trans hsame)
        exact hnodup.1 (hstep ▸ List.mem_map_of_mem hd)
    obtain ⟨s₂, hothers, hblocks'⟩ := ih hnodup.2 (fun d hd => ht d (List.mem_cons_of_mem _ hd))
      (fun d hd => h d (List.mem_cons_of_mem _ hd)) s₁ hfresh₁
    refine ⟨s₂, ?_, ?_⟩
    · rw [List.flatMap_cons, List.forM_eq_forM, List.forM_append]
      exact hreaches.bind hothers
    · rw [hblocks', hblocks, List.append_assoc, List.flatMap_cons]

/-- The blocks of a tree whose children are flat chains or hold no `if` statement are those of its chains. -/
theorem collect_eq (hname : name ≠ "") (ht : t.HasDistinctFields) (hcond : t.isConditional = false)
    (h : ∀ c ∈ t.children, IsCollected name c.2 ∨ c.2.HasNoConditional) (dropped : Nat) :
    ∃ dropped', collect ⟨some name, dropped⟩ t =
      (.ok ⟨t.children.flatMap fun c => c.2.arms.filterMap (leafBlock? name)⟩, ⟨some name, dropped'⟩) := by
  obtain ⟨s', hreaches, hblocks⟩ := reaches_children (nodup_steps_children ht.self) (fun _ hc => ht.child hc) h
    ⟨{}, dropped, []⟩ (fun _ _ _ hp => by cases hp)
  have hvisits : Reaches (t.places.forM (visitPlace name)) ⟨{}, dropped, []⟩ s' := by
    rw [places_eq, hcond, if_neg Bool.false_ne_true, List.nil_append]
    exact hreaches
  have htable : s'.table = ⟨t.children.flatMap fun c => c.2.arms.filterMap (leafBlock? name)⟩ := by
    have hempty : s'.table.blocks = t.children.flatMap fun c => c.2.arms.filterMap (leafBlock? name) := hblocks
    rw [← hempty]
  exact ⟨s'.dropped, by rw [collect_of_reaches hname hvisits, htable]⟩

end Deflatten.BlockCollector
