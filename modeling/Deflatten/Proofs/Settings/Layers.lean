import Deflatten.Proofs.Settings.Reader
import Mathlib.Data.List.Induction
/-!
# Layers of settings

Overrides are put on top of settings one layer after the other. What counts for each setting is the last layer that gives
it a value (`Settings.foldl_override`), and settings stay as they are when others are made from them
(`Settings.getElem?_scanl_override`).
-/

namespace Deflatten

namespace Overrides

/-- What counts for each setting in layers of overrides: the value of the last layer that has one. -/
def latest (layers : List Overrides) : Overrides where
  orderName := layers.reverse.findSome? orderName
  selectorName := layers.reverse.findSome? selectorName
  sourceType := layers.reverse.findSome? sourceType
  tolerant := layers.reverse.findSome? tolerant
  lowerRanges := layers.reverse.findSome? lowerRanges
  annotationPrefix := layers.reverse.findSome? annotationPrefix
  outputDirectory := layers.reverse.findSome? outputDirectory

/-- One more layer comes on top. -/
theorem latest_concat (layers : List Overrides) (o : Overrides) :
    latest (layers ++ [o]) = o.onTopOf (latest layers) := by
  have hfirst : ∀ {α : Type} (f : Overrides → Option α), (layers ++ [o]).reverse.findSome? f =
      (f o <|> layers.reverse.findSome? f) := by
    intro α f
    rw [List.reverse_concat, List.findSome?_cons]
    cases f o <;> rfl
  simp only [latest, onTopOf, hfirst]

end Overrides

namespace Settings

/-- Layers put on top one after the other count as one. -/
theorem foldl_override (s : Settings) (layers : List Overrides) :
    layers.foldl override s = s.override (.latest layers) := by
  induction layers using List.reverseRecOn with
  | nil => rfl
  | append_singleton layers o ih =>
    rw [List.foldl_concat, ih, override_override, Overrides.latest_concat]

/-- The settings after the first `k` layers are still there when all layers have been put on top. -/
theorem getElem?_scanl_override (s : Settings) {layers : List Overrides} {k : Nat} (hk : k ≤ layers.length) :
    (layers.scanl override s)[k]? = some (s.override (.latest (layers.take k))) := by
  rw [List.getElem?_scanl, if_pos hk, foldl_override]

end Settings
end Deflatten
