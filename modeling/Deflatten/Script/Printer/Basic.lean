import Deflatten.Script.Printer.Statement
import Deflatten.Text.Space
/-!
# Trees as text

`print` prints any node; `printStatements` prints statements each on its own and joins them on one line.
-/

namespace Deflatten

mutual

/-- How many nodes a path from the root of a tree passes at most. -/
def Tree.height : Tree → Nat
  | .scalar _ => 0
  | .list ts => itemsHeight ts
  | .record fs => fieldsHeight fs
  | .node _ fs => fieldsHeight fs + 1

/-- The greatest height of the items of a list. -/
def Tree.itemsHeight : List Tree → Nat
  | [] => 0
  | t :: ts => max t.height (itemsHeight ts)

/-- The greatest height of the values of fields. -/
def Tree.fieldsHeight : List (String × Tree) → Nat
  | [] => 0
  | (_, t) :: fs => max t.height (fieldsHeight fs)

end

namespace Script.Printer

/-- The printers for a depth of nesting; at depth zero nothing can be printed. -/
def Printers.ofDepth : Nat → Printers
  | 0 => ⟨fun _ _ _ => .error .tooDeep, fun _ _ _ => .error .tooDeep⟩
  | depth + 1 => {
      expression := fun level a t => Printer.expression (.ofDepth depth) level a t
      statement := fun level allowIn t => Printer.statement (.ofDepth depth) level allowIn t }

/-- Why a node was not printed: what the node that was to be printed is called, and the reason. -/
structure Failure where
  name : String
  reason : Refusal
  deriving DecidableEq, Repr

/-- The message of a failure. -/
def Failure.message (f : Failure) : String := "cannot serialise " ++ f.name ++ " node: " ++ f.reason.wording

/-- Prints a node that is a statement or an expression. -/
def printRoot (t : Tree) : Printing String := do
  let p := Printers.ofDepth (t.height + 1)
  match ← typeOf? t with
  | none => throw .untyped
  | some tag =>
    if statementTags.contains tag then p.statement 0 true t
    else if expressionTags.contains tag then p.expression 0 (asking Precedence.sequence) t
    else throw (.unsupportedRoot tag)

/-- Prints a node. A failure calls the node by its type, anything else by its sort. -/
def print (t : Tree) : Except Failure String := (printRoot t).mapError (⟨t.tag?.getD (sortOf t), ·⟩)

/-- Prints statements each on its own, without space around them, and joins those that are not empty by a space. -/
def printStatements (ts : List Tree) : Except Failure String := do
  let texts ← ts.mapM print
  return " ".intercalate ((texts.map Space.trimmed).filter fun s => !s.isEmpty)

end Script.Printer
end Deflatten
