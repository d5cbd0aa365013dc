import Deflatten.Proofs.Tree.FlatChains
/-!
# Programs

The statements of a program are its children. Where one list of statements follows another, the walk of the program goes
through the first as if it stood alone, and then through the second, with the places in it further on
(`Tree.places_programOf_append`).
-/

namespace Deflatten

/-- A step that goes to a later item of the same list. -/
def Step.shift (n : Nat) (s : Step) : Step := ⟨s.field, s.item.map (· + n)⟩

namespace Tree

/-- A program of statements; it is a script or a module. -/
def programOf (sourceType : String) (ts : List Tree) : Tree :=
  .node "Program" [("body", .list ts), ("sourceType", .text sourceType)]

/-- A path whose first step goes to a later item of the same list. -/
def shiftPath (n : Nat) : List Step → List Step
  | [] => []
  | s :: p => s.shift n :: p

variable {sourceType name : String} {xs ys ts : List Tree}

/-! ## Items -/

theorem map_snd_itemChildren (name : String) (i : Nat) (ts : List Tree) :
    (itemChildren name i ts).map Prod.snd = ts.filter isNode := by
  induction ts generalizing i with
  | nil => rfl
  | cons u us ih =>
    rw [itemChildren, List.filter_cons]
    split
    · rw [List.map_cons, ih]
    · exact ih (i + 1)

theorem itemChildren_append (name : String) (i : Nat) (xs ys : List Tree) :
    itemChildren name i (xs ++ ys) = itemChildren name i xs ++ itemChildren name (i + xs.length) ys := by
  induction xs generalizing i with
  | nil => rfl
  | cons u us ih =>
    have hlength : i + (u :: us).length = i + 1 + us.length := by rw [List.length_cons]; omega
    rw [List.cons_append, itemChildren, itemChildren, ih, hlength]
    split <;> rfl

/-- Items further on are reached by shifted steps. -/
theorem itemChildren_shift (name : String) (i n : Nat) (ts : List Tree) :
    itemChildren name (i + n) ts = (itemChildren name i ts).map fun c => (c.1.shift n, c.2) := by
  induction ts generalizing i with
  | nil => rfl
  | cons u us ih =>
    have hnext : i + n + 1 = i + 1 + n := by omega
    rw [itemChildren, itemChildren, hnext, ih]
    split <;> rfl

/-! ## Shifted paths -/

theorem shiftPath_injective (n : Nat) : Function.Injective (shiftPath n) := by
  intro p q h
  cases p with
  | nil =>
    cases q with
    | nil => rfl
    | cons _ _ => cases h
  | cons s p =>
    cases q with
    | nil => cases h
    | cons s' q =>
      obtain ⟨hstep, rfl⟩ := List.cons.inj h
      obtain ⟨hfield, hitem⟩ := Step.mk.inj hstep
      have hsame := Option.map_injective (fun _ _ => Nat.add_right_cancel) hitem
      obtain ⟨field, item⟩ := s
      obtain ⟨field', item'⟩ := s'
      cases hfield
      cases hsame
      rfl

theorem shiftPath_append {n : Nat} {p : List Step} (hp : p ≠ []) (q : List Step) :
    shiftPath n (p ++ q) = shiftPath n p ++ q := by
  cases p with
  | nil => exact absurd rfl hp
  | cons s p => rfl

/-! ## Statements -/

theorem children_programOf (sourceType : String) (ts : List Tree) :
    (programOf sourceType ts).children = itemChildren "body" 0 ts := by
  simp [programOf, children, fieldChildren, slotChildren, isNote, text]

theorem isConditional_programOf : (programOf sourceType ts).isConditional = false := rfl

theorem flatMap_children_programOf {β : Type} (f : Tree → List β) :
    ((programOf sourceType ts).children.flatMap fun c => f c.2) = (ts.filter isNode).flatMap f := by
  rw [children_programOf, ← map_snd_itemChildren "body" 0 ts, List.flatMap_map]

theorem nodes_programOf :
    (programOf sourceType ts).nodes = programOf sourceType ts :: (ts.filter isNode).flatMap nodes := by
  rw [nodes_eq, flatMap_children_programOf]

theorem hasDistinctFields_programOf_iff :
    (programOf sourceType ts).HasDistinctFields ↔ ∀ u ∈ ts.filter isNode, u.HasDistinctFields := by
  have hself : ((programOf sourceType ts).fields.map Prod.fst).Nodup := by simp [programOf, fields]
  rw [HasDistinctFields, nodes_programOf, List.forall_mem_cons, and_iff_right hself]
  simp only [List.mem_flatMap, forall_exists_index, and_imp]
  exact ⟨fun h u hu w hw => h w u hu hw, fun h w u hu hw => h u hu w hw⟩

theorem hasDistinctFields_programOf_append_iff : (programOf sourceType (xs ++ ys)).HasDistinctFields ↔
    (programOf sourceType xs).HasDistinctFields ∧ (programOf sourceType ys).HasDistinctFields := by
  simp only [hasDistinctFields_programOf_iff, List.filter_append, List.forall_mem_append]

theorem places_programOf : (programOf sourceType ts).places =
    (itemChildren "body" 0 ts).flatMap fun c => c.2.places.map (placeBelow c.1) := by
  rw [places_eq, isConditional_programOf, if_neg Bool.false_ne_true, List.nil_append, children_programOf]

/-- The `if` statements of the second of two lists of statements come after those of the first, at shifted paths. -/
theorem places_programOf_append : (programOf sourceType (xs ++ ys)).places =
    (programOf sourceType xs).places ++
      (programOf sourceType ys).places.map fun q => (shiftPath xs.length q.1, q.2) := by
  rw [places_programOf, itemChildren_append, itemChildren_shift, List.flatMap_append, List.flatMap_map, places_programOf,
    places_programOf, List.map_flatMap]
  congr 1
  refine List.flatMap_congr fun c _ => ?_
  rw [List.map_map]
  rfl

/-- The path to an `if` statement of a program goes through one of the statements. -/
theorem exists_item_of_mem_places {q : List Step × Tree} (h : q ∈ (programOf sourceType ts).places) :
    ∃ i < ts.length, ∃ p, q.1 = ⟨"body", some i⟩ :: p := by
  rw [places_programOf] at h
  obtain ⟨c, hc, hq⟩ := List.mem_flatMap.mp h
  obtain ⟨r, -, rfl⟩ := List.mem_map.mp hq
  obtain ⟨k, hk, -, hstep⟩ := mem_itemChildren_iff.mp hc
  exact ⟨k, (List.getElem?_eq_some_iff.mp hk).1, r.1, by rw [placeBelow, hstep, Nat.zero_add]⟩

end Tree
end Deflatten
