import Deflatten.Proofs.Normalization.Inverse
import Deflatten.Proofs.Normalization.Settled
import Deflatten.Proofs.OrderArray.Priority
/-!
# The order array of a normalized tree

Neither pass changes a name or a number, or puts a declaration, an assignment or an array anywhere, and both keep the nodes
of a tree in document order. So the array that is found in a normalized tree holds the numbers of the one in the original
tree (`OrderArray.find_ofTree`). Only where none is found, the order grows, by one place for each `else` that was guarded.
-/

namespace Deflatten.OrderArray

open Deflatten.Tree

variable {f : Step → Tree → Tree} {t u : Tree} {tag target value name : String}

/-! ## Arrays after a change of the children -/

/-- A change keeps what children are, what they are called, and the numbers of those that are arrays. -/
structure KeepsArrays (f : Step → Tree → Tree) : Prop where
  tag? : ∀ s c, (f s c).tag? = c.tag?
  name? : ∀ s c, (f s c).name? = c.name?
  arrayNumbers : ∀ s c, c.hasTag Tag.array → (f s c).arrayNumbers = c.arrayNumbers

theorem filterMap_mapItems (hf : ∀ s c, (f s c).number? = c.number?) (field : String) (i : Nat) (ts : List Tree) :
    (mapItems f field i ts).filterMap number? = ts.filterMap number? := by
  induction ts generalizing i with
  | nil => rfl
  | cons u us ih =>
    have hu : (if u.isNode then f ⟨field, some i⟩ u else u).number? = u.number? := by
      split
      · exact hf _ u
      · rfl
    rw [mapItems, List.filterMap_cons, List.filterMap_cons, hu, ih]

/-- A change of the children that keeps the numbers that they are keeps the numbers of an array. -/
theorem arrayNumbers_mapChildren (hnode : ∀ s c, c.isNode → (f s c).isNode) (hf : ∀ s c, (f s c).number? = c.number?)
    (t : Tree) : (t.mapChildren f).arrayNumbers = t.arrayNumbers := by
  have hitems : ∀ {u : Tree}, u.isNode → u.items = [] := fun {u} hu => by
    cases u with
    | node _ _ => rfl
    | _ => cases hu
  cases ht : t.isNode with
  | false => rw [mapChildren_of_not_isNode ht]
  | true =>
    rw [arrayNumbers, arrayNumbers, get_mapChildren ht f rfl]
    generalize t.get "elements" = elements
    cases elements with
    | scalar _ => rfl
    | record _ => rfl
    | list ts => exact filterMap_mapItems hf "elements" 0 ts
    | node tag fs => rw [mapSlot_of_isNode rfl, hitems (hnode _ _ rfl), hitems rfl]

/-- The numbers of the array that a node gives to a variable. -/
def numbersGiven? (tag target value name : String) (u : Tree) : Option (List Number) :=
  (given? tag target value name u).map arrayNumbers

theorem numbersGiven?_of_not_hasTag (h : u.hasTag tag = false) : numbersGiven? tag target value name u = none := by
  rw [numbersGiven?, given?_eq, if_neg, Option.map_none]
  rintro ⟨htag, -⟩
  rw [h] at htag
  cases htag

theorem numbersGiven?_mapChildren (hf : KeepsArrays f) (htarget : isNote target = false) (hvalue : isNote value = false)
    (t : Tree) : numbersGiven? tag target value name (t.mapChildren f) = numbersGiven? tag target value name t := by
  cases ht : t.isNode with
  | false => rw [mapChildren_of_not_isNode ht]
  | true =>
    have hname : ((t.mapChildren f).get target).name? = (t.get target).name? := by
      rw [get_mapChildren ht f htarget]
      exact apply_mapSlot (fun _ => name?_of_not_isNode) fun _ => hf.name? _ _
    have harray : ((t.mapChildren f).get value).hasTag Tag.array = (t.get value).hasTag Tag.array := by
      rw [get_mapChildren ht f hvalue]
      exact apply_mapSlot (fun _ hu => hasTag_of_not_isNode hu _) fun _ => by rw [hasTag, hf.tag?, hasTag]
    have hiff : Gives tag target value name (t.mapChildren f) ↔ Gives tag target value name t := by
      rw [Gives, Gives, hasTag_mapChildren, hname, harray]
    rw [numbersGiven?, numbersGiven?, given?_eq, given?_eq]
    by_cases hgives : Gives tag target value name t
    · rw [if_pos hgives, if_pos (hiff.mpr hgives), Option.map_some, Option.map_some, get_mapChildren ht f hvalue,
        mapSlot_of_isNode (isNode_of_hasTag hgives.2.2), hf.arrayNumbers _ _ hgives.2.2]
    · rw [if_neg hgives, if_neg (fun h => hgives (hiff.mp h))]

/-! ## Arrays after a pass -/

open ElseGuard RangeTest

theorem not_continues (h : u.isConditional = false) (s : Step) : continues u s = false := by
  rw [continues, h, Bool.false_and]

theorem arrayNumbers_apply (plan : Plan) (h : t.hasTag Tag.array) : (plan.apply t).arrayNumbers = t.arrayNumbers := by
  have hcond : t.isConditional = false := hasTag_of_ne h (by decide)
  rw [Plan.apply_eq]
  refine arrayNumbers_mapChildren Plan.isNode_applyChild (fun s c => ?_) t
  rw [Plan.applyChild_of_not_continues (not_continues hcond s), Plan.number?_apply]

theorem keepsArrays_applyChild (plan : Plan) (h : u.isConditional = false) : KeepsArrays (plan.applyChild u) := by
  have hchild : ∀ s c, plan.applyChild u s c = (plan.into u s).apply c := fun s c =>
    Plan.applyChild_of_not_continues (not_continues h s) c
  exact
    { tag? := fun s c => by rw [hchild, Plan.tag?_apply]
      name? := fun s c => by rw [hchild, Plan.name?_apply]
      arrayNumbers := fun s c hc => by rw [hchild, arrayNumbers_apply _ hc] }

theorem arrayNumbers_lower (h : t.hasTag Tag.array) : (lower t).arrayNumbers = t.arrayNumbers := by
  rw [lower_eq_mapChildren (isNode_of_hasTag h) (lowered?_of_not_binary (hasTag_of_ne h (by decide)))]
  exact arrayNumbers_mapChildren (fun _ c hc => by rwa [isNode_lower]) (fun _ c => number?_lower c) t

theorem keepsArrays_lower : KeepsArrays fun _ c => lower c :=
  { tag? := fun _ c => tag?_lower c
    name? := fun _ c => name?_lower c
    arrayNumbers := fun _ _ hc => arrayNumbers_lower hc }

/-- Neither pass makes nodes of a type, or changes them other than by their children. -/
def IsUntouched (tag : String) : Prop := tag ∉ [Tag.conditional, Tag.binary, Tag.name, Tag.literal]

instance (tag : String) : Decidable (IsUntouched tag) := inferInstanceAs (Decidable (tag ∉ _))

theorem IsUntouched.hasTag_of_mem (h : IsUntouched tag) (hu : u.hasTag tag) {tag' : String}
    (hmem : tag' ∈ [Tag.conditional, Tag.binary, Tag.name, Tag.literal]) : u.hasTag tag' = false :=
  hasTag_of_ne hu fun heq => h (heq ▸ hmem)

variable (htag : IsUntouched tag) (htarget : isNote target = false) (hvalue : isNote value = false)

include htag in
theorem numbersGiven?_of_mem {tag' : String} (hmem : tag' ∈ [Tag.conditional, Tag.binary, Tag.name, Tag.literal])
    (hu : u.hasTag tag') : numbersGiven? tag target value name u = none :=
  numbersGiven?_of_not_hasTag (hasTag_of_ne hu fun heq => htag (heq ▸ hmem))

include htag htarget hvalue in
theorem numbersGiven?_guarded (own : Option SelectorTest) (u : Tree) :
    numbersGiven? tag target value name (guarded own u) = numbersGiven? tag target value name u := by
  cases hu : u.hasTag tag with
  | false => rw [numbersGiven?_of_not_hasTag hu, numbersGiven?_of_not_hasTag (by rwa [hasTag_guarded])]
  | true =>
    have hcond : u.isConditional = false := htag.hasTag_of_mem hu (by decide)
    rw [guarded, Plan.apply_eq, numbersGiven?_mapChildren (keepsArrays_applyChild _ hcond) htarget hvalue]

include htag htarget hvalue in
theorem numbersGiven?_lower (u : Tree) :
    numbersGiven? tag target value name (lower u) = numbersGiven? tag target value name u := by
  cases hu : u.hasTag tag with
  | false => rw [numbersGiven?_of_not_hasTag hu, numbersGiven?_of_not_hasTag (by rwa [hasTag_lower])]
  | true =>
    have hbinary : u.hasTag Tag.binary = false := htag.hasTag_of_mem hu (by decide)
    rw [lower_eq_mapChildren (isNode_of_hasTag hu) (lowered?_of_not_binary hbinary),
      numbersGiven?_mapChildren keepsArrays_lower htarget hvalue]

include htag htarget hvalue in
/-- The arrays of a normalized tree hold the numbers of those in the original one, in document order. -/
theorem filterMap_numbersGiven?_ofTree (h : t.IsScriptTree) (lowerRanges : Bool) :
    (Normalized.ofTree t lowerRanges).tree.nodes.filterMap (numbersGiven? tag target value name) =
      t.nodes.filterMap (numbersGiven? tag target value name) := by
  have hnone : ∀ tag' ∈ [Tag.conditional, Tag.binary, Tag.name, Tag.literal], ∀ u : Tree, u.hasTag tag' →
      numbersGiven? tag target value name u = none := fun _ hmem _ hu => numbersGiven?_of_mem htag hmem hu
  have hread : ReadsNoGuard (numbersGiven? tag target value name) :=
    { member := fun _ _ => hnone Tag.conditional (by decide) _ rfl
      test := fun _ _ => hnone Tag.binary (by decide) _ rfl
      name := fun _ => hnone Tag.name (by decide) _ rfl
      number := fun _ => hnone Tag.literal (by decide) _ rfl }
  have hrun : (run t).1.nodes.filterMap (numbersGiven? tag target value name) =
      t.nodes.filterMap (numbersGiven? tag target value name) :=
    filterMap_nodes_run h.fields hread fun own u _ => numbersGiven?_guarded htag htarget hvalue own u
  cases lowerRanges with
  | false => exact hrun
  | true =>
    have hscript := isScriptTree_run h
    refine Eq.trans ?_ hrun
    exact filterMap_nodes_lower hscript.fields hscript.literals hread.number (hnone Tag.literal (by decide))
      fun u _ => numbersGiven?_lower htag htarget hvalue u

/-! ## The order -/

theorem find_eq_numbers (hname : name ≠ "") (t : Tree) : find (some name) t =
    match t.nodes.findSome? (numbersGiven? Tag.declarator "id" "init" name),
      t.nodes.findSome? (numbersGiven? Tag.assignment "left" "right" name) with
    | some ns, _ => ⟨ns.map .number, .declaration⟩
    | none, some ns => ⟨ns.map .number, .assignment⟩
    | none, none => positional t := by
  have hmap : ∀ tag target value, t.nodes.findSome? (numbersGiven? tag target value name) =
      (t.nodes.findSome? (given? tag target value name)).map arrayNumbers := fun tag target value =>
    List.map_findSome?.symm
  rw [find_eq hname, hmap, hmap, declared?, assigned?]
  cases t.nodes.findSome? (given? Tag.declarator "id" "init" name) with
  | some array => rfl
  | none => cases t.nodes.findSome? (given? Tag.assignment "left" "right" name) <;> rfl

theorem length_conditionals_lower (ht : t.HasDistinctFields) (hl : t.HasPlainLiterals) :
    (lower t).conditionals.length = t.conditionals.length := by
  have hliteral : ∀ u : Tree, u.hasTag Tag.literal → mark isConditional u = none := fun u hu =>
    mark_eq_none (hasTag_of_ne hu (by decide))
  have hkeep : ∀ u ∈ t.nodes, mark isConditional (lower u) = mark isConditional u := fun u _ => by
    rw [mark, isConditional_lower, mark]
  rw [length_conditionals, length_conditionals, ← length_filterMap_mark, ← length_filterMap_mark,
    filterMap_nodes_lower ht hl (fun _ => mark_eq_none rfl) hliteral hkeep]

/-- Normalization adds an `if` statement for each `else` that is guarded. -/
theorem length_conditionals_ofTree (h : t.IsScriptTree) (hs : t.HasSingleAlternates) (lowerRanges : Bool) :
    ((Normalized.ofTree t lowerRanges).tree.conditionals.length : Int) =
      t.conditionals.length + (Normalized.ofTree t lowerRanges).metrics.guardedElses := by
  have hscript := isScriptTree_run h
  have hlength : (Normalized.ofTree t lowerRanges).tree.conditionals.length = (run t).1.conditionals.length := by
    cases lowerRanges with
    | false => rfl
    | true => exact length_conditionals_lower hscript.fields hscript.literals
  have hcount : (Normalized.ofTree t lowerRanges).metrics.guardedElses = guardedCount (run t).2 := by
    cases lowerRanges <;> exact Int.add_zero _
  rw [hlength, hcount, length_conditionals_run h.fields hs, Int.natCast_add]

/-- An order that is found as an array stays as it is when a tree is normalized. Where no array is found, neither is one
afterwards, and the order grows by one place for each `else` that is guarded. -/
theorem find_ofTree (h : t.IsScriptTree) (hs : t.HasSingleAlternates) (variableName : Option String) (lowerRanges : Bool) :
    (find variableName (Normalized.ofTree t lowerRanges).tree).origin = (find variableName t).origin ∧
      ((find variableName t).origin ≠ .positional →
        (find variableName (Normalized.ofTree t lowerRanges).tree).values = (find variableName t).values) ∧
      ((find variableName t).origin = .positional → ∃ count : Nat,
        (count : Int) = t.conditionals.length + (Normalized.ofTree t lowerRanges).metrics.guardedElses ∧
          (find variableName (Normalized.ofTree t lowerRanges).tree).values =
            (List.range count).map fun (i : Nat) => .int i) := by
  -- Either both searches end with one array, or both fall back to the places of the `if` statements.
  have hfound : find variableName (Normalized.ofTree t lowerRanges).tree = find variableName t ∧
        (find variableName t).origin ≠ .positional ∨
      find variableName (Normalized.ofTree t lowerRanges).tree = positional (Normalized.ofTree t lowerRanges).tree ∧
        find variableName t = positional t := by
    by_cases hname : variableName = none ∨ variableName = some ""
    · rcases hname with rfl | rfl <;> exact .inr ⟨rfl, rfl⟩
    · obtain ⟨name, rfl⟩ := Option.ne_none_iff_exists'.mp fun hnone => hname (.inl hnone)
      have hne : name ≠ "" := fun hblank => hname (.inr (hblank ▸ rfl))
      have hsame : ∀ {tag target value}, IsUntouched tag → isNote target = false → isNote value = false →
          (Normalized.ofTree t lowerRanges).tree.nodes.findSome? (numbersGiven? tag target value name) =
            t.nodes.findSome? (numbersGiven? tag target value name) := by
        intro tag target value htag htarget hvalue
        rw [← List.head?_filterMap, ← List.head?_filterMap, filterMap_numbersGiven?_ofTree htag htarget hvalue h]
      rw [find_eq_numbers hne, find_eq_numbers hne, hsame (by decide) rfl rfl, hsame (by decide) rfl rfl]
      cases t.nodes.findSome? (numbersGiven? Tag.declarator "id" "init" name) with
      | some ns => exact .inl ⟨rfl, (by decide : Origin.declaration ≠ .positional)⟩
      | none =>
        cases t.nodes.findSome? (numbersGiven? Tag.assignment "left" "right" name) with
        | some ns => exact .inl ⟨rfl, (by decide : Origin.assignment ≠ .positional)⟩
        | none => exact .inr ⟨rfl, rfl⟩
  rcases hfound with ⟨hsame, horigin⟩ | ⟨hafter, hbefore⟩
  · rw [hsame]
    exact ⟨rfl, fun _ => rfl, fun hpositional => absurd hpositional horigin⟩
  · rw [hafter, hbefore]
    exact ⟨rfl, fun hne => absurd rfl hne, fun _ => ⟨_, length_conditionals_ofTree h hs lowerRanges, rfl⟩⟩

/-- The script `var F = [1, 0]; if (s === 0) { a(); } else { b(); }`. -/
def declaredArray : Tree :=
  scriptOf [.node "VariableDeclaration" [("declarations", .list [.node Tag.declarator
      [("id", .node Tag.name [("name", .text "F")]), ("init", arrayOf [1, 0])]]), ("kind", .text "var")],
    .ifThen (SelectorTest.equals (.text "s") (.int 0)).toTree (blockOf [callOf "a"]) (blockOf [callOf "b"])]

/-- The array stays, but there are two places for `if` statements where there was one. -/
theorem find_declaredArray :
    declaredArray.IsScriptTree ∧ declaredArray.HasSingleAlternates ∧
      (find (some "F") (Normalized.ofTree declaredArray true).tree).values = [.int 1, .int 0] ∧
      (find none declaredArray).values = [.int 0] ∧
      (find none (Normalized.ofTree declaredArray true).tree).values = [.int 0, .int 1] := by
  have hscript : declaredArray.IsScriptTree := by decide +kernel
  have hsingle : declaredArray.HasSingleAlternates := by decide +kernel
  obtain ⟨-, harray, -⟩ := find_ofTree hscript hsingle (some "F") true
  obtain ⟨-, -, hplaces⟩ := find_ofTree hscript hsingle none true
  have hfound : find (some "F") declaredArray = ⟨[.int 1, .int 0], .declaration⟩ := by decide +kernel
  obtain ⟨count, hcount, hvalues⟩ := hplaces rfl
  have hlength : declaredArray.conditionals.length = 1 := by decide +kernel
  have hguards : (Normalized.ofTree declaredArray true).metrics.guardedElses = 1 := by decide +kernel
  rw [hlength, hguards] at hcount
  obtain rfl : count = 2 := by omega
  refine ⟨hscript, hsingle, ?_, by decide +kernel, hvalues⟩
  rw [harray (by rw [hfound]; decide), hfound]

end Deflatten.OrderArray
