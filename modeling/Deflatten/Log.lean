import Deflatten.Failure
import Deflatten.Normalization.Basic
import Deflatten.OrderArray
/-!
# Log

What a run reports on its way. Every event has a level, the part of the program that it comes from, and a text. A
failure does not take back what was reported before.
-/

namespace Deflatten

/-- How much an event matters. -/
inductive Level where
  | debug
  | info
  | warning
  deriving DecidableEq, Repr

namespace Level

/-- A level as it is shown. -/
def text : Level → String
  | .debug => "DEBUG"
  | .info => "INFO"
  | .warning => "WARNING"

/-- The rank of a level. -/
def rank : Level → Nat
  | .debug => 0
  | .info => 1
  | .warning => 2

end Level

/-- Something that happened in a run. -/
inductive Event where
  | processing (input : Path)
  | orderName (name : Option String)
  | selectorName (name : Option String)
  | chainLeft
  | chainGuarded (test : SelectorTest)
  | elsesGuarded (count : Nat)
  | rangesLowered (count : Nat)
  | counted (metrics : Metrics)
  | noSelectorName
  | blocksCollected (count : Nat) (name : Option String) (dropped : Nat)
  | orderMissing (name : Option String) (count : Nat)
  | orderFound (name : Option String) (order : OrderArray)
  | replayed (found total : Nat)
  | unmatched (positions : List Nat)
  deriving Repr

namespace Event

/-- The level of an event. -/
def level : Event → Level
  | .chainLeft | .chainGuarded _ | .unmatched _ => .debug
  | .noSelectorName | .orderMissing _ _ => .warning
  | _ => .info

/-- The part of the program that an event comes from. -/
def source : Event → String
  | .processing _ | .orderName _ | .selectorName _ => "jsunflatten.cli"
  | .chainLeft | .chainGuarded _ | .elsesGuarded _ | .rangesLowered _ => "jsunflatten.normalizer"
  | .counted _ => "jsunflatten.pipeline"
  | .noSelectorName | .blocksCollected _ _ _ => "jsunflatten.catalog"
  | .orderMissing _ _ | .orderFound _ _ => "jsunflatten.flow"
  | .replayed _ _ | .unmatched _ => "jsunflatten.reorder"

/-- A name that may be missing, as it is shown. -/
def shownName (name : Option String) : String := name.getD "None"

/-- The text of an event. -/
def text : Event → String
  | .processing input => "processing " ++ input.text
  | .orderName name => "control flow variable: " ++ shownName name
  | .selectorName name => "condition variable: " ++ shownName name
  | .chainLeft => "leaving chain untouched: unrecognised head test"
  | .chainGuarded test => "final else now guarded by " ++ test.describe
  | .elsesGuarded count => "converted " ++ toString count ++ " trailing else block(s) into else-if"
  | .rangesLowered count => "simplified " ++ toString count ++ " less-than comparison(s)"
  | .counted metrics => "normalizer metrics: " ++ metrics.describe
  | .noSelectorName => "no condition variable given; block catalog is empty"
  | .blocksCollected count name dropped =>
    "extracted " ++ toString count ++ " bottom-level block(s) for " ++ shownName name ++ " (" ++ toString dropped ++
      " dropped)"
  | .orderMissing name count =>
    "order array " ++ shownName name ++ " not found; falling back to " ++ toString count ++ " positional value(s)"
  | .orderFound name order =>
    "found order array " ++ shownName name ++ " (" ++ order.origin.name ++ ") with " ++ toString order.size ++
      " element(s): " ++ order.preview OrderArray.previewLength
  | .replayed found total => "reordered " ++ toString found ++ " of " ++ toString total ++ " flow position(s)"
  | .unmatched positions =>
    "flow positions without a block: [" ++ ", ".intercalate (positions.map toString) ++ "]"

/-- An event as a line of the log. -/
def line (e : Event) : String := e.level.text ++ " " ++ e.source ++ ": " ++ e.text

/-- Whether an event is shown when events below a level are not. -/
def isShown (least : Level) (e : Event) : Bool := least.rank ≤ e.level.rank

/-- What became of a chain, as far as it is reported. -/
def ofOutcome : ElseGuard.Outcome → Option Event
  | .noElse => none
  | .unrecognised => some .chainLeft
  | .guarded test => some (.chainGuarded test)

/-- What is reported about a normalization. -/
def ofNormalized (n : Normalized) : List Event :=
  n.chains.filterMap ofOutcome ++ [.elsesGuarded (ElseGuard.guardedCount n.chains)] ++
    (n.lowered.map .rangesLowered).toList ++ [.counted n.metrics]

/-- What is reported about an order. -/
def ofOrder (name : Option String) (order : OrderArray) : Event :=
  if order.isFallback then .orderMissing name order.size else .orderFound name order

end Event

/-- A computation that may fail and that reports on its way. -/
abbrev Logged (m : Type → Type) := ExceptT Failure (StateT (List Event) m)

/-- Reports events. -/
def report {m : Type → Type} [Monad m] (events : List Event) : Logged m Unit := modify (· ++ events)

/-- Goes on with a result, or fails as it says. -/
def orFail {m : Type → Type} [Monad m] {ε α : Type} (cause : ε → Failure) : Except ε α → Logged m α
  | .ok a => return a
  | .error e => throw (cause e)

end Deflatten
