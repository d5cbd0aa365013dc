import Deflatten.BlockTable
import Deflatten.Files.Path
import Deflatten.Json.Writer
import Deflatten.OrderArray
/-!
# Artifacts

The files that a run writes for one input: their paths, named after the input, and the JSON texts that some of them
hold.
-/

namespace Deflatten

/-- A value as JSON. -/
def Scalar.toJson : Scalar → Json
  | .null => .null
  | .bool b => .bool b
  | .number n => .number n
  | s => .text s.shown

/-- A block as JSON. -/
def LeafBlock.toJson (b : LeafBlock) : Json :=
  .object [("condition", .text b.condition), ("value", b.value.toJson), ("code", .text b.code)]

namespace BlockTable

/-- An object with a member for each block, named by its place. -/
def toJsonWith (f : LeafBlock → Json) (t : BlockTable) : Json :=
  .object (t.blocks.mapIdx fun i b => (toString i, f b))

/-- The blocks with their conditions and values as JSON. -/
def toJson : BlockTable → Json := toJsonWith LeafBlock.toJson

/-- The code of the blocks as JSON. -/
def toSimpleJson : BlockTable → Json := toJsonWith fun b => .text b.code

/-- The blocks as JSON text, with or without their conditions and values. -/
def jsonText (t : BlockTable) (simple : Bool) : String := Json.write false (if simple then t.toSimpleJson else t.toJson)

/-- That text, unless a value in it has too many digits. -/
def jsonText? (t : BlockTable) (simple : Bool) : Option String :=
  Json.write? false (if simple then t.toSimpleJson else t.toJson)

end BlockTable

namespace OrderArray

/-- An order as JSON. -/
def toJson (a : OrderArray) : Json := .list (a.values.map Scalar.toJson)

/-- An order as JSON text. -/
def jsonText (a : OrderArray) : String := Json.write true a.toJson

/-- That text, unless a value in it has too many digits. -/
def jsonText? (a : OrderArray) : Option String := Json.write? true a.toJson

end OrderArray

/-- The paths of the files that a run writes. -/
structure Artifacts where
  processed : Path
  conditionMapping : Path
  simpleMapping : Path
  controlFlow : Path
  reordered : Path
  deriving DecidableEq, Repr

namespace Artifacts

/-- The artifacts of an input, in a directory or else beside the input. -/
def ofInput (input : Path) (directory : Option Path) : Artifacts :=
  let place := directory.getD input.parent
  let file (ending : String) : Path := place.child (input.stem ++ ending)
  { processed := file "_processed.js"
    conditionMapping := file "_condition_mapping.json"
    simpleMapping := file "_simple_mapping.json"
    controlFlow := file "_control_flow.json"
    reordered := file "_reordered.js" }

/-- The directory of the artifacts. -/
def directory (a : Artifacts) : Path := a.processed.parent

/-- The paths, each with what the file holds. -/
def described (a : Artifacts) : List (Path × String) :=
  [(a.processed, "normalized source"), (a.conditionMapping, "condition and code block mapping"),
    (a.simpleMapping, "index to code block mapping"), (a.controlFlow, "control flow sequence"),
    (a.reordered, "code reordered by control flow")]

end Artifacts
end Deflatten
