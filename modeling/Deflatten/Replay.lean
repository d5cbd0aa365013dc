import Deflatten.BlockTable
import Deflatten.OrderArray
/-!
# Replaying an order

Each value of an order is looked up in a table of blocks. The blocks found are listed in that order, each under a
heading that tells its position; positions without a block are listed apart.
-/

namespace Deflatten

/-- Annotated blocks in order, and the positions for which there is none. -/
structure Replay where
  blocks : List (String × String) := []
  unmatched : List Nat := []
  deriving DecidableEq, Repr

namespace Replay

/-- The words before a position, unless others are chosen. -/
def defaultPrefix : String := "control flow position"

/-- The heading of a block. -/
def heading (label : String) (position : Nat) (b : LeafBlock) : String :=
  "// " ++ label ++ " " ++ toString position ++ ": " ++ b.condition

/-- Replays values from a position on. -/
def startingAt (label : String) (table : BlockTable) : Nat → List Scalar → Replay
  | _, [] => {}
  | position, value :: values =>
    let rest := startingAt label table (position + 1) values
    match table.lookup value with
    | some b => { rest with blocks := (heading label position b, b.code) :: rest.blocks }
    | none => { rest with unmatched := position :: rest.unmatched }

/-- Replays an order. -/
def ofOrder (label : String) (table : BlockTable) (order : OrderArray) : Replay := startingAt label table 0 order.values

/-- The blocks as text, each under its heading and with an empty line after it. -/
def render (r : Replay) : String := "\n".intercalate (r.blocks.flatMap fun (note, code) => [note, code, ""])

end Replay
end Deflatten
