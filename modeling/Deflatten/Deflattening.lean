import Deflatten.Artifacts
import Deflatten.BlockCollector
import Deflatten.Log
import Deflatten.Normalization.Halting
import Deflatten.Replay
/-!
# Deflattening

A run normalizes a script, prints it, reads the printed text back and collects its leaf blocks; it finds the order in
the script as it was given, and replays it. `Deflattening.runFile` does so for a file and writes the artifacts. Nothing
is written before the run has succeeded, but the artifacts are written one after the other, and each is turned into text
only when the ones before it have been written.
-/

namespace Deflatten

/-- What a run makes of a script. -/
structure Deflattening where
  normalized : String
  table : BlockTable
  order : OrderArray
  replay : Replay
  metrics : Metrics
  deriving DecidableEq, Repr

namespace Deflattening

variable {m : Type → Type} [Monad m]

/-- Reads a script. -/
def parse (s : Settings) (source : String) : Logged m Tree :=
  orFail .script (Script.parse s.sourceType s.tolerant source)

/-- Normalizes a script and prints it. -/
def normalize (s : Settings) (t : Tree) : Logged m (String × Metrics) := do
  if (Normalized.halted? t s.lowerRanges).isSome then throw (.script .longInteger)
  let n := Normalized.ofTree t s.lowerRanges
  report (Event.ofNormalized n)
  return (← orFail .script (Script.print n.tree), n.metrics)

/-- Collects the leaf blocks of a script. -/
def collect (s : Settings) (t : Tree) : Logged m BlockTable := do
  let (table, collector) := BlockCollector.collect { variableName := s.selectorName } t
  let table ← orFail .script table
  match s.selectorName with
  | none | some "" => report [.noSelectorName]
  | name => report [.blocksCollected table.size name collector.dropped]
  return table

/-- Finds the order in a script. -/
def findOrder (s : Settings) (t : Tree) : Logged m OrderArray := do
  let some order := OrderArray.find? s.orderName t | throw (.script .longInteger)
  report [.ofOrder s.orderName order]
  return order

/-- Replays an order. -/
def replayOrder (s : Settings) (table : BlockTable) (order : OrderArray) : Logged m Replay := do
  let replay := Replay.ofOrder s.annotationPrefix table order
  report [.replayed replay.blocks.length order.size]
  unless replay.unmatched.isEmpty do report [.unmatched replay.unmatched]
  return replay

/-- Runs on a script. -/
def run (s : Settings) (source : String) : Logged m Deflattening := do
  let tree ← parse s source
  let (normalized, metrics) ← normalize s tree
  let table ← collect s (← parse s normalized)
  let order ← findOrder s tree
  let replay ← replayOrder s table order
  return { normalized, table, order, replay, metrics }

/-- What a run makes of a script, without its log. -/
def ofSource (s : Settings) (source : String) : Except Failure Deflattening :=
  (Id.run ((run s source : Logged Id Deflattening).run.run [])).1

/-- The artifacts with their contents, if they can be written, in the order in which they are written. -/
def contents (d : Deflattening) (a : Artifacts) : List (Path × Option String) :=
  [(a.processed, some d.normalized), (a.conditionMapping, d.table.jsonText? false),
    (a.simpleMapping, d.table.jsonText? true), (a.controlFlow, d.order.jsonText?), (a.reordered, some d.replay.render)]

variable [FileAccess m]

/-- The octets of an input file. -/
def readInput (input : Path) : Logged m (List UInt8) := do
  unless ← orFail .file (← (FileAccess.isFile input : m (Except FileFault Bool))) do throw (.missingInput input)
  orFail .file (← (FileAccess.read input : m (Except FileFault (List UInt8))))

/-- Octets as text with plain line ends. -/
def decode (octets : List UInt8) : Logged m String := do
  return String.ofList (Utf8.plainLines (← orFail .undecodable (Utf8.decode octets)))

/-- Writes a file, if there is a text for it. -/
def writeFile (path : Path) : Option String → Logged m Unit
  | none => throw (.script .longInteger)
  | some text => do orFail .file (← (FileAccess.write path text : m (Except FileFault Unit)))

/-- Makes the directory and writes the artifacts. -/
def write (d : Deflattening) (a : Artifacts) : Logged m Unit := do
  orFail .file (← (FileAccess.makeDirectory a.directory : m (Except FileFault Unit)))
  (d.contents a).forM fun (path, text?) => writeFile path text?

/-- Runs on a file and writes the artifacts. -/
def runFile (s : Settings) (input : Path) : Logged m Artifacts := do
  let d ← run s (← decode (← readInput input))
  let a := Artifacts.ofInput input s.outputDirectory
  d.write a
  return a

end Deflattening
end Deflatten
