import Deflatten.OrderArray
import Deflatten.Proofs.Tree.Chains
/-!
# Which array is the order

A declaration of the variable with an array comes before every assignment of one, wherever both stand, and of several the
first in document order counts; without either there is a place for each `if` statement (`OrderArray.IsOrder`). The search
goes by this rule and takes an assignment with any operator for one that gives the variable its array. So it finds what the
rule says of plain assignments alone exactly where no other assignment of an array comes first or where it makes no
difference (`OrderArray.find_eq_iff`). What it finds is lost if it cannot be shown (`OrderArray.find?_eq_some_iff`).
-/

namespace Deflatten

namespace Tree

variable {t u w : Tree} {P : Tree → Prop}

/-- A node of a tree has a property, and none that comes before it in the document does. -/
def IsFirst (t : Tree) (P : Tree → Prop) (u : Tree) : Prop :=
  ∃ before after, t.nodes = before ++ u :: after ∧ P u ∧ ∀ w ∈ before, ¬P w

theorem isFirst_iff [DecidablePred P] : t.IsFirst P u ↔ t.nodes.find? P = some u := by
  rw [List.find?_eq_some_iff_append]
  simp only [decide_eq_true_eq, Bool.not_eq_true', decide_eq_false_iff_not, IsFirst]
  constructor
  · rintro ⟨before, after, hnodes, hu, hbefore⟩
    exact ⟨hu, before, after, hnodes, hbefore⟩
  · rintro ⟨hu, before, after, hnodes, hbefore⟩
    exact ⟨before, after, hnodes, hu, hbefore⟩

theorem IsFirst.mem_nodes (h : t.IsFirst P u) : u ∈ t.nodes := by
  obtain ⟨before, after, hnodes, -, -⟩ := h
  rw [hnodes]
  exact List.mem_append_right _ List.mem_cons_self

theorem IsFirst.holds (h : t.IsFirst P u) : P u := by
  obtain ⟨-, -, -, hu, -⟩ := h
  exact hu

/-- There is one first node with a property, if any. -/
theorem IsFirst.eq [DecidablePred P] (h : t.IsFirst P u) (h' : t.IsFirst P w) : u = w :=
  Option.some.inj ((isFirst_iff.mp h).symm.trans (isFirst_iff.mp h'))

end Tree

namespace OrderArray

open Deflatten.Tree

variable {name : String} {t u : Tree} {a : OrderArray}

/-! ## The rule -/

/-- A node of a type names a variable in one field and holds an array in another. -/
def Gives (tag target value : String) (name : String) (u : Tree) : Prop :=
  u.hasTag tag ∧ (u.get target).name? = some (.text name) ∧ (u.get value).hasTag Tag.array

instance (tag target value name : String) : DecidablePred (Gives tag target value name) :=
  fun u => inferInstanceAs (Decidable (u.hasTag tag ∧ (u.get target).name? = some (.text name) ∧ _))

/-- A declaration gives a variable an array. -/
abbrev Declares : String → Tree → Prop := Gives Tag.declarator "id" "init"

/-- An assignment with any operator has a variable on its left and an array on its right. -/
abbrev Assigns : String → Tree → Prop := Gives Tag.assignment "left" "right"

/-- A plain assignment gives a variable an array. -/
def AssignsPlainly (name : String) (u : Tree) : Prop := Assigns name u ∧ u.operator? = some "="

instance (name : String) : DecidablePred (AssignsPlainly name) :=
  fun u => inferInstanceAs (Decidable (Assigns name u ∧ _))

/-- The order in which the blocks of a tree run, if it is known which nodes assign an array to the variable: the numbers of
the array that is declared first, or else of the one that is assigned first, or else one number for each `if` statement. -/
inductive IsOrder (assigns : Tree → Prop) (name : String) (t : Tree) : OrderArray → Prop
  | declared {u : Tree} (hfirst : t.IsFirst (Declares name) u) :
      IsOrder assigns name t ⟨(u.get "init").arrayNumbers.map .number, .declaration⟩
  | assigned {u : Tree} (hnone : ∀ w ∈ t.nodes, ¬Declares name w) (hfirst : t.IsFirst assigns u) :
      IsOrder assigns name t ⟨(u.get "right").arrayNumbers.map .number, .assignment⟩
  | positional (hnone : ∀ w ∈ t.nodes, ¬Declares name w) (hnone' : ∀ w ∈ t.nodes, ¬assigns w) :
      IsOrder assigns name t ⟨(List.range (t.nodes.countP isConditional)).map fun (i : Nat) => .int i, .positional⟩

theorem given?_eq (tag target value name : String) (u : Tree) :
    given? tag target value name u = if Gives tag target value name u then some (u.get value) else none := by
  have hiff : (u.hasTag tag && (u.get target).name? == some (.text name) && (u.get value).hasTag Tag.array) = true ↔
      Gives tag target value name u := by
    rw [Bool.and_eq_true_iff, Bool.and_eq_true_iff, beq_iff_eq, and_assoc, Gives]
  rw [given?]
  exact if_congr hiff rfl rfl

/-- The first array that is given to a variable is that of the first node that gives it one. -/
theorem findSome?_given? (tag target value name : String) (us : List Tree) :
    us.findSome? (given? tag target value name) = (us.find? (Gives tag target value name)).map (·.get value) := by
  induction us with
  | nil => rfl
  | cons u us ih =>
    rw [List.findSome?_cons, List.find?_cons, given?_eq]
    by_cases hu : Gives tag target value name u
    · rw [if_pos hu, decide_eq_true hu]
      rfl
    · rw [if_neg hu, decide_eq_false hu]
      exact ih

theorem length_conditionals (t : Tree) : t.conditionals.length = t.nodes.countP isConditional := by
  rw [nodes, List.countP_map, List.countP_eq_length_filter]
  rfl

theorem find_eq (hname : name ≠ "") (t : Tree) : find (some name) t =
    match t.nodes.findSome? (declared? name), t.nodes.findSome? (assigned? name) with
    | some array, _ => ofArray .declaration array
    | none, some array => ofArray .assignment array
    | none, none => positional t := by
  rw [find]
  · rfl
  · exact hname

/-! ## The search -/

/-- The order is found unless it is that of an array with a value of too many digits among the first. -/
theorem find?_eq_some_iff {name : Option String} : find? name t = some a ↔
    find name t = a ∧ (a.isFallback ∨ ∀ v ∈ cut previewLength a.values, v.isWritable) := by
  have hpreview : (a.preview? previewLength).isSome ↔ ∀ v ∈ cut previewLength a.values, v.isWritable := by
    rw [preview?, ← List.all_eq_true]
    split <;> simp_all
  rw [find?, Option.ite_none_right_eq_some, Option.some.injEq, Bool.or_eq_true]
  constructor
  · rintro ⟨hshown, rfl⟩
    exact ⟨rfl, hshown.imp_right hpreview.mp⟩
  · rintro ⟨rfl, hshown⟩
    exact ⟨hshown.imp_right hpreview.mpr, rfl⟩

/-- The search goes by the rule, for assignments with any operator. -/
theorem isOrder_find (hname : name ≠ "") (t : Tree) : IsOrder (Assigns name) name t (find (some name) t) := by
  rw [find_eq hname, declared?, assigned?, findSome?_given?, findSome?_given?]
  cases hdeclared : t.nodes.find? (Gives Tag.declarator "id" "init" name) with
  | some u => exact .declared (isFirst_iff.mpr hdeclared)
  | none =>
    have hnone : ∀ w ∈ t.nodes, ¬Declares name w := by simpa using List.find?_eq_none.mp hdeclared
    cases hassigned : t.nodes.find? (Gives Tag.assignment "left" "right" name) with
    | some u => exact .assigned hnone (isFirst_iff.mpr hassigned)
    | none =>
      rw [Option.map_none, Option.map_none, positional, length_conditionals]
      exact .positional hnone (by simpa using List.find?_eq_none.mp hassigned)

/-- The rule leaves no choice. -/
theorem IsOrder.eq {assigns : Tree → Prop} [DecidablePred assigns] {b : OrderArray} (ha : IsOrder assigns name t a)
    (hb : IsOrder assigns name t b) : a = b := by
  cases ha with
  | declared hu =>
    cases hb with
    | declared hw => rw [hu.eq hw]
    | assigned hnone _ => exact absurd hu.holds (hnone _ hu.mem_nodes)
    | positional hnone _ => exact absurd hu.holds (hnone _ hu.mem_nodes)
  | assigned hnone hu =>
    cases hb with
    | declared hw => exact absurd hw.holds (hnone _ hw.mem_nodes)
    | assigned _ hw => rw [hu.eq hw]
    | positional _ hnone' => exact absurd hu.holds (hnone' _ hu.mem_nodes)
  | positional hnone hnone' =>
    cases hb with
    | declared hw => exact absurd hw.holds (hnone _ hw.mem_nodes)
    | assigned _ hw => exact absurd hw.holds (hnone' _ hw.mem_nodes)
    | positional _ _ => rfl

/-! ## Plain assignments -/

theorem map_number_injective : Function.Injective (List.map Scalar.number) :=
  List.map_injective_iff.mpr fun _ _ h => Scalar.number.inj h

/-- The order that is found is the one that the rule gives for a variable. For plain assignments alone the rule gives the
same one if the variable is declared with an array, or is assigned none, or if the first array that is assigned to it has
the numbers of the first that is plainly assigned, and in no other case. -/
theorem find_eq_iff (hname : name ≠ "") (t : Tree) :
    (∀ a, find (some name) t = a ↔ IsOrder (Assigns name) name t a) ∧
      (IsOrder (AssignsPlainly name) name t (find (some name) t) ↔
        (∃ u ∈ t.nodes, Declares name u) ∨ (∀ u ∈ t.nodes, ¬Assigns name u) ∨
          ∃ u w, t.IsFirst (Assigns name) u ∧ t.IsFirst (AssignsPlainly name) w ∧
            (u.get "right").arrayNumbers = (w.get "right").arrayNumbers) := by
  have hfound := isOrder_find hname t
  refine ⟨fun a => ⟨fun h => h ▸ hfound, fun h => hfound.eq h⟩, ?_⟩
  generalize find (some name) t = a at hfound
  cases hfound with
  | declared hu => exact iff_of_true (.declared hu) (.inl ⟨_, hu.mem_nodes, hu.holds⟩)
  | positional hnone hnone' =>
    exact iff_of_true (.positional hnone fun w hw hplain => hnone' w hw hplain.1) (.inr (.inl hnone'))
  | assigned hnone hu =>
    constructor
    · intro hplain
      generalize hb : (⟨_, Origin.assignment⟩ : OrderArray) = b at hplain
      cases hplain with
      | declared hw =>
        have horigin : Origin.assignment = .declaration := congrArg origin hb
        cases horigin
      | positional _ _ =>
        have horigin : Origin.assignment = .positional := congrArg origin hb
        cases horigin
      | assigned _ hw => exact .inr (.inr ⟨_, _, hu, hw, map_number_injective (congrArg values hb)⟩)
    · rintro (⟨w, hw, hdeclares⟩ | hnone' | ⟨u, w, hfirst, hplain, hnumbers⟩)
      · exact absurd hdeclares (hnone w hw)
      · exact absurd hu.holds (hnone' _ hu.mem_nodes)
      · rw [hu.eq hfirst, hnumbers]
        exact .assigned hnone hplain

/-- An array of integers. -/
def arrayOf (ns : List Int) : Tree := .node Tag.array [("elements", .list (ns.map fun n => .number (.int n)))]

/-- The script `F += [2, 0]; if (a) { b(); }`. -/
def addedArray : Tree :=
  scriptOf [.node "ExpressionStatement" [("expression", .node Tag.assignment [("operator", .text "+="),
      ("left", .node Tag.name [("name", .text "F")]), ("right", arrayOf [2, 0])])],
    .ifThen (.node Tag.name [("name", .text "a")]) (blockOf [callOf "b"]) .null]

theorem isOrder_addedArray : "F" ≠ "" ∧ IsOrder (Assigns "F") "F" addedArray ⟨[.int 2, .int 0], .assignment⟩ := by
  have hname : "F" ≠ "" := by decide
  obtain ⟨hrule, -⟩ := find_eq_iff hname addedArray
  exact ⟨hname, (hrule _).mp (by decide +kernel)⟩

/-- The script declares no array for the variable and plainly assigns none, and so should give the place of its `if`
statement, but what is found is the array that is added. -/
theorem find_addedArray :
    find (some "F") addedArray = ⟨[.int 2, .int 0], .assignment⟩ ∧
      IsOrder (AssignsPlainly "F") "F" addedArray ⟨[.int 0], .positional⟩ := by
  have hnone : ∀ u ∈ addedArray.nodes, ¬Declares "F" u := by decide +kernel
  have hnone' : ∀ u ∈ addedArray.nodes, ¬AssignsPlainly "F" u := by decide +kernel
  have hcount : addedArray.nodes.countP isConditional = 1 := by decide +kernel
  have horder := IsOrder.positional hnone hnone'
  rw [hcount] at horder
  exact ⟨by decide +kernel, horder⟩

end OrderArray
end Deflatten
