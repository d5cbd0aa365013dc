import Deflatten.BlockTable
import Deflatten.Normalization.ElseGuard
/-!
# Collecting leaf blocks

A conditional is bottom-level if its consequent is a block with no `if` statement among its own statements. The
collector goes through the conditionals of a tree in document order; from the first bottom-level member of a chain it
takes the chain to its end, and no conditional twice. A branch counts as dropped if it does not test the selector for a
value or has no code.
-/

namespace Deflatten

/-- The selector variable whose blocks are collected, and how many branches have been dropped so far. -/
structure BlockCollector where
  variableName : Option String
  dropped : Nat := 0
  deriving DecidableEq, Repr

namespace Tree

/-- Whether the consequent of an `if` statement is a block with no `if` statement of its own. -/
def isBottomLevel (t : Tree) : Bool :=
  match (t.get "consequent").blockBody? with
  | some body => body.all fun s => !s.isConditional
  | none => false

end Tree

namespace BlockCollector

/-- How far a collection has come: the blocks found, how many branches were dropped, and the conditionals that have
been taken already. -/
structure Progress where
  table : BlockTable
  dropped : Nat
  covered : List TreePath

/-- A step of a collection. What was counted before a failure stays counted. -/
abbrev Collecting := ExceptT Script.Error (StateM Progress)

/-- Adds a block. -/
def keep (b : LeafBlock) : Collecting Unit := modify fun s => { s with table := s.table.push b }

/-- Counts a branch as dropped. -/
def drop : Collecting Unit := modify fun s => { s with dropped := s.dropped + 1 }

/-- Adds a block if it has code, and drops it if not. A value that is added must have few enough digits. -/
def keepOrDrop (condition : String) (value : Scalar) (body : List Tree) : Collecting Unit := do
  let code ← (Script.printStatements body : Except Script.Error String)
  if code.isEmpty then drop
  else if value.isWritable then keep ⟨condition, value, code⟩
  else throw .longInteger

/-- The test of a branch if it is an equality test of the selector. -/
def branchTest? (name : String) (branch : Tree) : Option SelectorTest :=
  (SelectorTest.ofConditional? branch).filter (·.tests (.text name))

/-- Takes one branch of a chain. -/
def takeBranch (name : String) (branch : Tree) : Collecting Unit :=
  match branchTest? name branch with
  | some test =>
    keepOrDrop test.describe (.number test.value) (((branch.get "consequent").blockBody?).getD [])
  | none => drop

/-- Takes the members of a chain from the given one on, and the final `else` if some of them tests the selector. -/
def takeChain (name : String) (head : Tree) : Collecting Unit := do
  head.chain.forM (takeBranch name)
  match (head.chainTail.get "alternate").blockBody? with
  | some body =>
    if head.chain.any fun branch => (branchTest? name branch).isSome then
      keepOrDrop LeafBlock.elseTag (.text LeafBlock.elseTag) body
  | none => return

/-- Takes the chain from a conditional on, unless that was done before or the conditional is not bottom-level. -/
def visit (name : String) (v : Visit) : Collecting Unit := do
  unless (← get).covered.contains v.path || !v.node.isBottomLevel do
    takeChain name v.node
    let members := (List.range v.node.chain.length).map fun k => v.path ++ chainPath k
    modify fun s => { s with covered := members ++ s.covered }

/-- Collects the blocks of a tree. Without a variable there are none. -/
def collect (c : BlockCollector) (t : Tree) : Except Script.Error BlockTable × BlockCollector :=
  match c.variableName with
  | none | some "" => (.ok {}, c)
  | some name =>
    let (r, s) := (t.conditionals.forM (visit name)).run.run ⟨{}, c.dropped, []⟩
    (r.map fun _ => s.table, { c with dropped := s.dropped })

end BlockCollector
end Deflatten
