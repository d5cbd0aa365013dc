import Deflatten.Proofs.Dispatch.Collection
/-!
# Effects of a step of a collection

To take a chain has the same effect wherever a collection stands (`BlockCollector.Accumulates`): what it adds and how many
branches it drops does not depend on what has been added, dropped and covered before. A visit that takes the chain has one
effect, but for what it covers (`BlockCollector.exists_run_visitPlace`).
-/

namespace Deflatten.BlockCollector

open Deflatten.Tree

/-- A step that has one effect wherever a collection stands: it gives the same result, adds the same blocks, counts as many
branches, and covers nothing. -/
def Accumulates (x : Collecting Unit) : Prop :=
  ∃ (r : Except Script.Error Unit) (blocks : List LeafBlock) (k : Nat), ∀ s : Progress,
    x.run.run s = (r, ⟨⟨s.table.blocks ++ blocks⟩, s.dropped + k, s.covered⟩)

theorem accumulates_pure : Accumulates (pure ()) :=
  ⟨.ok (), [], 0, fun s => by rw [List.append_nil]; rfl⟩

theorem accumulates_throw (e : Script.Error) : Accumulates (throw e) :=
  ⟨.error e, [], 0, fun s => by rw [List.append_nil]; rfl⟩

theorem accumulates_drop : Accumulates drop :=
  ⟨.ok (), [], 1, fun s => by rw [List.append_nil]; rfl⟩

theorem accumulates_keep (b : LeafBlock) : Accumulates (keep b) :=
  ⟨.ok (), [b], 0, fun _ => rfl⟩

theorem Accumulates.bind {x : Collecting Unit} {f : Unit → Collecting Unit} (hx : Accumulates x)
    (hf : Accumulates (f ())) : Accumulates (x >>= f) := by
  obtain ⟨r, blocks, k, hrun⟩ := hx
  cases r with
  | error e =>
    refine ⟨.error e, blocks, k, fun s => ?_⟩
    rw [ExceptT.run_bind, StateT.run_bind, hrun]
    rfl
  | ok _ =>
    obtain ⟨r', blocks', k', hrun'⟩ := hf
    refine ⟨r', blocks ++ blocks', k + k', fun s => ?_⟩
    rw [ExceptT.run_bind, StateT.run_bind, hrun]
    show (f ()).run.run _ = _
    rw [hrun', List.append_assoc, Nat.add_assoc]

theorem accumulates_keepOrDrop (condition : String) (value : Scalar) (body : List Tree) :
    Accumulates (keepOrDrop condition value body) := by
  rw [keepOrDrop]
  cases hcode : Script.printStatements body with
  | error e => exact accumulates_throw e
  | ok code =>
    show Accumulates (if code.isEmpty then drop else if value.isWritable then keep ⟨condition, value, code⟩
      else throw .longInteger)
    split
    · exact accumulates_drop
    · split
      · exact accumulates_keep _
      · exact accumulates_throw _

theorem accumulates_takeBranch (name : String) (branch : Tree) : Accumulates (takeBranch name branch) := by
  rw [takeBranch]
  split
  · exact accumulates_keepOrDrop ..
  · exact accumulates_drop

theorem accumulates_takeBranches (name : String) (members : List Tree) :
    Accumulates (members.forM (takeBranch name)) := by
  induction members with
  | nil => exact accumulates_pure
  | cons member members ih => exact (accumulates_takeBranch name member).bind ih

theorem accumulates_takeChain (name : String) (t : Tree) : Accumulates (takeChain name t) := by
  rw [takeChain]
  refine (accumulates_takeBranches name t.chain).bind ?_
  split
  · split
    · exact accumulates_keepOrDrop ..
    · exact accumulates_pure
  · exact accumulates_pure

/-! ## Visits -/

/-- The paths to the members that a visit covers when it takes the chain. -/
def covers (q : TreePath × Tree) : List TreePath := (List.range q.2.chain.length).map fun k => q.1 ++ chainPath k

/-- A visit that takes the chain has one effect, but for what it covers. -/
theorem exists_run_visitPlace (name : String) (t : Tree) :
    ∃ (r : Except Script.Error Unit) (blocks : List LeafBlock) (k : Nat), ∀ (p : TreePath) (s : Progress),
      (visitPlace name (p, t)).run.run s =
        if s.covered.contains p || !t.isBottomLevel then (.ok (), s)
        else (r, ⟨⟨s.table.blocks ++ blocks⟩, s.dropped + k,
          (if r.isOk then covers (p, t) else []) ++ s.covered⟩) := by
  obtain ⟨r, blocks, k, hrun⟩ := accumulates_takeChain name t
  refine ⟨r, blocks, k, fun p s => ?_⟩
  rw [run_visitPlace]
  split
  · rfl
  · rw [ExceptT.run_bind, StateT.run_bind, hrun]
    cases r <;> rfl

end Deflatten.BlockCollector
