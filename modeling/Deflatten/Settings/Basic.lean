import Deflatten.Files.Path
import Deflatten.Replay
import Deflatten.Script.Basic
/-!
# Settings

The settings of a run, and overrides that give some of them new values. Overrides on top of others count first.
-/

namespace Deflatten

/-- The settings of a run. -/
structure Settings where
  orderName : Option String := none
  selectorName : Option String := none
  sourceType : String := "script"
  tolerant : Bool := false
  lowerRanges : Bool := true
  annotationPrefix : String := Replay.defaultPrefix
  outputDirectory : Option Path := none
  deriving DecidableEq, Repr, Inhabited

/-- New values for some settings. -/
structure Overrides where
  orderName : Option String := none
  selectorName : Option String := none
  sourceType : Option String := none
  tolerant : Option Bool := none
  lowerRanges : Option Bool := none
  annotationPrefix : Option String := none
  outputDirectory : Option Path := none
  deriving DecidableEq, Repr, Inhabited

namespace Overrides

/-- Overrides on top of others. -/
def onTopOf (a b : Overrides) : Overrides where
  orderName := a.orderName <|> b.orderName
  selectorName := a.selectorName <|> b.selectorName
  sourceType := a.sourceType <|> b.sourceType
  tolerant := a.tolerant <|> b.tolerant
  lowerRanges := a.lowerRanges <|> b.lowerRanges
  annotationPrefix := a.annotationPrefix <|> b.annotationPrefix
  outputDirectory := a.outputDirectory <|> b.outputDirectory

end Overrides

namespace Settings

/-- Settings with overrides on top. -/
def override (s : Settings) (o : Overrides) : Settings where
  orderName := o.orderName <|> s.orderName
  selectorName := o.selectorName <|> s.selectorName
  sourceType := o.sourceType.getD s.sourceType
  tolerant := o.tolerant.getD s.tolerant
  lowerRanges := o.lowerRanges.getD s.lowerRanges
  annotationPrefix := o.annotationPrefix.getD s.annotationPrefix
  outputDirectory := o.outputDirectory <|> s.outputDirectory

/-- Whether the parser knows the source type. -/
def isReadable (s : Settings) : Bool := (Script.SourceType.ofName? s.sourceType).isSome

theorem getD_orElse {α : Type} (a b : Option α) (c : α) : (a <|> b).getD c = a.getD (b.getD c) := by
  cases a <;> rfl

theorem orElse_assoc {α : Type} (a b c : Option α) : ((a <|> b) <|> c) = (a <|> (b <|> c)) := by
  cases a <;> rfl

/-- Overriding twice is overriding once, with the later overrides on top. -/
theorem override_override (s : Settings) (a b : Overrides) : (s.override a).override b = s.override (b.onTopOf a) := by
  simp only [override, Overrides.onTopOf, getD_orElse, orElse_assoc]

end Settings
end Deflatten
