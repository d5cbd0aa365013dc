import Deflatten.Proofs.Normalization.Selectors
import Deflatten.Proofs.Normalization.Settled
import Deflatten.Proofs.Tree.DocumentOrder
/-!
# Lowering all range tests at once

Lowering is one change of all nodes at once: a node that is a comparison `v < N` of a name with an integer `N ≥ 1` gets
another operator and another right operand, and every other node stays as it is (`RangeTest.lower_eq_editAll`). So the
nodes keep their places, their types and their surroundings (`RangeTest.map_place_walk_lower`).
-/

namespace Deflatten

/-- What a visit tells of its place: the type of the node, the type of the parent if there is one, the field, the depth
and the path. -/
structure Visit.Place where
  tag : Option String
  parent : Option (Option String)
  field : Option String
  depth : Nat
  path : List Step
  deriving DecidableEq

/-- A place in the walk of a node, as it is seen where the node itself has a place. -/
def Visit.Place.under (p q : Visit.Place) : Visit.Place :=
  ⟨q.tag, q.parent.or p.parent, q.field.or p.field, p.depth + q.depth, p.path ++ q.path⟩

/-- The place of a visit. -/
def Visit.place (v : Visit) : Visit.Place := ⟨v.node.tag?, v.parent.map Tree.tag?, v.field, v.depth, v.path⟩

theorem Visit.place_under (v u : Visit) : (v.under u).place = v.place.under u.place := by
  rw [place, Place.under, under, Option.map_or]
  rfl

theorem Visit.place_root (t : Tree) : (Visit.root t).place = ⟨t.tag?, none, none, 0, []⟩ := rfl

namespace Tree

mutual

/-- Changes all nodes of a tree or a list at once, each by the edit that it calls for as it stands. -/
def editAll (edit : Tree → Tree → Tree) : Tree → Tree
  | .node tag fs => edit (.node tag fs) (.node tag (editFields edit fs))
  | .list ts => .list (editItems edit ts)
  | t => t

/-- Changes all nodes below a node. -/
def editFields (edit : Tree → Tree → Tree) : List (String × Tree) → List (String × Tree)
  | [] => []
  | (name, value) :: fs => (name, if isNote name then value else editAll edit value) :: editFields edit fs

/-- Changes all nodes at the nodes of a list. -/
def editItems (edit : Tree → Tree → Tree) : List Tree → List Tree
  | [] => []
  | t :: ts => (if t.isNode then editAll edit t else t) :: editItems edit ts

end

variable {t : Tree} {edit : Tree → Tree → Tree} {f : Step → Tree → Tree} {fs : List (String × Tree)}

theorem editItems_eq_mapItems (edit : Tree → Tree → Tree) (name : String) (i : Nat) (ts : List Tree) :
    editItems edit ts = mapItems (fun _ c => editAll edit c) name i ts := by
  induction ts generalizing i with
  | nil => rw [editItems, mapItems]
  | cons u us ih => rw [editItems, mapItems, ih (i + 1)]

/-- A node is edited after its children, as it stood before. -/
theorem editAll_eq (ht : t.isNode) : t.editAll edit = edit t (t.mapChildren fun _ c => c.editAll edit) := by
  have hslot : ∀ name value, editAll edit value = mapSlot (fun _ c => editAll edit c) name value := by
    intro name value
    cases value with
    | scalar _ => rw [editAll, mapSlot] <;> simp
    | record _ => rw [editAll, mapSlot] <;> simp
    | node _ _ => rw [mapSlot]
    | list ts => rw [editAll, mapSlot, editItems_eq_mapItems edit name 0 ts]
  have hfields : ∀ fs, editFields edit fs = mapFields (fun _ c => editAll edit c) fs := by
    intro fs
    induction fs with
    | nil => rw [editFields, mapFields]
    | cons f fs ih =>
      obtain ⟨name, value⟩ := f
      rw [editFields, mapFields, ih, ← hslot]
  cases t with
  | node tag fs => rw [editAll, mapChildren, hfields]
  | _ => contradiction

theorem isNode_of_leads {u : Tree} {p : List Step} (ht : t.isNode) (h : t.Leads p u) : u.isNode := by
  induction h with
  | here => exact ht
  | child hc _ ih => exact ih (isNode_of_mem_children hc)

/-! ## Fields that are set -/

theorem mapFields_eq_map (f : Step → Tree → Tree) (fs : List (String × Tree)) :
    mapFields f fs = fs.map fun field => (field.1, if isNote field.1 then field.2 else mapSlot f field.1 field.2) := by
  induction fs with
  | nil => rfl
  | cons _ fs ih => rw [mapFields, List.map_cons, ih]

/-- To put a value into a field that is there changes this field alone. -/
theorem putField_eq_map {name : String} (value : Tree) (hfs : (fs.map Prod.fst).Nodup) (hname : name ∈ fs.map Prod.fst) :
    putField name value fs = fs.map fun field => (field.1, if field.1 = name then value else field.2) := by
  induction fs with
  | nil => cases hname
  | cons field fs ih =>
    obtain ⟨n, v⟩ := field
    rw [List.map_cons, List.nodup_cons] at hfs
    rw [putField, List.map_cons]
    by_cases h : n = name
    · have hrest : (fs.map fun field => (field.1, if field.1 = name then value else field.2)) = fs := by
        refine (List.map_congr_left fun field hfield => ?_).trans (List.map_id' fs)
        have hne : field.1 ≠ name := fun heq => hfs.1 (List.mem_map.mpr ⟨field, hfield, heq.trans h.symm⟩)
        rw [if_neg hne]
      rw [if_pos h, if_pos h, hrest]
    · have hmem : name ∈ fs.map Prod.fst := (List.mem_cons.mp hname).resolve_left (Ne.symm h)
      rw [if_neg h, if_neg h, ih hfs.2 hmem]

theorem map_fst_putField {name : String} (value : Tree) (hname : name ∈ fs.map Prod.fst) :
    (putField name value fs).map Prod.fst = fs.map Prod.fst := by
  induction fs with
  | nil => cases hname
  | cons field fs ih =>
    obtain ⟨n, v⟩ := field
    rw [putField]
    split
    · rfl
    · rename_i h
      have hmem : name ∈ fs.map Prod.fst := (List.mem_cons.mp hname).resolve_left (Ne.symm h)
      rw [List.map_cons, ih hmem, List.map_cons]

theorem map_fst_fields_set {name : String} (value : Tree) (hname : name ∈ t.fields.map Prod.fst) :
    (t.set name value).fields.map Prod.fst = t.fields.map Prod.fst := by
  cases t with
  | node tag fs => exact map_fst_putField value hname
  | _ => rfl

/-- To set a field that holds no child, to a value that holds none either, leaves the children. -/
theorem children_set {name : String} {value : Tree} (hnew : slotChildren name value = [])
    (hold : ∀ old, (name, old) ∈ t.fields → slotChildren name old = []) : (t.set name value).children = t.children := by
  have hfields : ∀ fs, (∀ old, (name, old) ∈ fs → slotChildren name old = []) →
      fieldChildren (putField name value fs) = fieldChildren fs := by
    intro fs hold
    induction fs with
    | nil => simp [putField, fieldChildren, hnew]
    | cons field fs ih =>
      obtain ⟨n, v⟩ := field
      rw [putField]
      split
      · rename_i h
        subst h
        rw [fieldChildren, fieldChildren, hnew, hold v List.mem_cons_self]
      · rw [fieldChildren, fieldChildren, ih fun old hmem => hold old (List.mem_cons_of_mem _ hmem)]
  cases t with
  | node tag fs => exact hfields fs hold
  | _ => rfl

/-- To set a field and then change the children is to change the children and then set it. -/
theorem mapChildren_set (t : Tree) (f : Step → Tree → Tree) {name : String} (hn : isNote name = false) (value : Tree) :
    (t.set name value).mapChildren f = (t.mapChildren f).set name (mapSlot f name value) := by
  have hfields : ∀ fs, mapFields f (putField name value fs) = putField name (mapSlot f name value) (mapFields f fs) := by
    intro fs
    induction fs with
    | nil => simp [putField, mapFields, hn]
    | cons field fs ih =>
      obtain ⟨n, v⟩ := field
      by_cases h : n = name
      · subst h
        simp [putField, mapFields, hn]
      · simp [putField, mapFields, h, ih]
  cases t with
  | node tag fs => rw [set, mapChildren, mapChildren, set, hfields]
  | _ => rfl

theorem mem_fields_of_get {name : String} (h : t.get name ≠ .null) : name ∈ t.fields.map Prod.fst := by
  cases hfield : t.field? name with
  | none => rw [get, hfield] at h; exact absurd rfl h
  | some value => exact List.mem_map.mpr ⟨(name, value), mem_of_lookup hfield, rfl⟩

end Tree

namespace RangeTest

open Deflatten.Tree

variable {t : Tree} {own : Option SelectorTest}

/-- Writes the equality test to which a node is lowered into the node, if it is lowered. -/
def write (own : Option SelectorTest) (w : Tree) : Tree :=
  match own with
  | some test => (w.set "operator" (.text test.operator)).set "right" (.number test.value)
  | none => w

/-! ## A lowered node -/

/-- A node that is lowered has an operator and a right operand. -/
theorem fields_of_lowered? {test : SelectorTest} (h : lowered? t = some test) :
    "operator" ∈ t.fields.map Prod.fst ∧ "right" ∈ t.fields.map Prod.fst := by
  obtain ⟨range, hrange, -⟩ := lowered?_eq_some_iff.mp h
  obtain ⟨-, hop, -, hvalue, -⟩ := SelectorTest.ofTree?_eq_some hrange
  constructor
  · refine mem_fields_of_get fun hnull => ?_
    rw [operator?, hnull] at hop
    cases hop
  · refine mem_fields_of_get fun hnull => ?_
    rw [hnull] at hvalue
    cases hvalue

theorem lowerFields_eq_map (own : Option SelectorTest) (fs : List (String × Tree)) :
    lowerFields own fs = fs.map fun field => (field.1, fieldValue own field.1 field.2 (lower field.2)) := by
  induction fs with
  | nil => rw [lowerFields, List.map_nil]
  | cons field fs ih => rw [lowerFields, List.map_cons, ih]

/-- Lowering changes the children of a node and then writes the node's own equality test. -/
theorem lower_eq_write (ht : t.isNode) (hfs : (t.fields.map Prod.fst).Nodup) :
    lower t = write (lowered? t) (t.mapChildren fun _ c => lower c) := by
  cases h : lowered? t with
  | none => exact lower_eq_mapChildren ht h
  | some test =>
    obtain ⟨hop, hright⟩ := fields_of_lowered? h
    cases t with
    | node tag fs =>
      have hoperator : putField "operator" (.text test.operator) (mapFields (fun _ c => lower c) fs) =
          fs.map fun field => (field.1, if field.1 = "operator" then .text test.operator
            else if isNote field.1 then field.2 else mapSlot (fun _ c => lower c) field.1 field.2) := by
        rw [putField_eq_map _ (by rwa [map_fst_mapFields]) (by rwa [map_fst_mapFields]), mapFields_eq_map, List.map_map]
        rfl
      rw [lower, h, lowerFields_eq_map, write, mapChildren, Tree.set, Tree.set, hoperator,
        putField_eq_map _ (by rw [List.map_map]; exact hfs) (by rw [List.map_map]; exact hright), List.map_map]
      congr 1
      refine List.map_congr_left fun field _ => ?_
      simp only [Function.comp_apply, fieldValue, beq_iff_eq, ← lower_eq_mapSlot]
      by_cases h₁ : field.1 = "operator"
      · simp [h₁]
      · simp [h₁]
    | _ => contradiction

/-! ## All nodes at once -/

/-- The integer `N` of a comparison `v < N` of a name with an integer `N ≥ 1`; `none` for any other tree. -/
def bound? (t : Tree) : Option Int :=
  if t.hasTag Tag.binary && t.operator? == some SelectorTest.lessThan && (t.get "left").name?.isSome then
    match (t.get "right").number? with
    | some (.int n) => if 1 ≤ n then some n else none
    | _ => none
  else none

/-- The edit that a node calls for: a comparison `v < N` of a name with an integer `N ≥ 1` becomes `v === N - 1`. -/
def edit (u w : Tree) : Tree :=
  match bound? u with
  | some n => (w.set "operator" (.text "===")).set "right" (.number (.int (n - 1)))
  | none => w

/-- Where literals are integers, the nodes that are lowered are the comparisons `v < N` with `N ≥ 1`. -/
theorem lowered?_eq_bound? (hint : t.HasIntegerLiterals) :
    (lowered? t).map (fun test => (test.operator, test.value)) =
      (bound? t).map fun n => (SelectorTest.equality, .int (n - 1)) := by
  rw [lowered?_eq, bound?]
  cases hread : SelectorTest.ofTree? t with
  | some test =>
    obtain ⟨htag, hop, hname, hvalue, -⟩ := SelectorTest.ofTree?_eq_some hread
    obtain ⟨n, hn⟩ := hint.ofTree? hread
    rw [Option.bind_some, htag, hop, hname, hvalue, hn, Number.pred_int, SelectorTest.isNegative_int]
    by_cases hless : test.operator = SelectorTest.lessThan
    · by_cases hpos : 1 ≤ n
      · have hnot : ¬ n - 1 < 0 := by omega
        simp [hless, hpos, hnot, SelectorTest.equals]
      · have hneg : n - 1 < 0 := by omega
        simp [hpos, hneg]
    · simp [hless]
  | none =>
    rw [Option.bind_none, Option.map_none, eq_comm, Option.map_eq_none_iff]
    split
    · rename_i hshape
      rw [Bool.and_eq_true, Bool.and_eq_true, beq_iff_eq, Option.isSome_iff_exists] at hshape
      obtain ⟨⟨htag, hop⟩, name, hname⟩ := hshape
      rw [SelectorTest.ofTree?, if_pos htag, hop, hname] at hread
      cases hvalue : (t.get "right").number? with
      | none => rfl
      | some value =>
        rw [hvalue] at hread
        cases hread
    · rfl

theorem write_lowered? (hint : t.HasIntegerLiterals) (w : Tree) : write (lowered? t) w = edit t w := by
  have h := lowered?_eq_bound? hint
  rw [edit]
  cases hl : lowered? t with
  | none =>
    rw [hl, Option.map_none, eq_comm, Option.map_eq_none_iff] at h
    rw [h]
    rfl
  | some test =>
    rw [hl, Option.map_some, eq_comm, Option.map_eq_some_iff] at h
    obtain ⟨n, hn, heq⟩ := h
    obtain ⟨hop, hvalue⟩ := Prod.mk.inj heq
    rw [write, hn, ← hop, ← hvalue]
    rfl

theorem isSome_bound? (hint : t.HasIntegerLiterals) : (bound? t).isSome = isLowerable t := by
  have h := congrArg Option.isSome (lowered?_eq_bound? hint)
  rw [Option.isSome_map, Option.isSome_map, isSome_lowered?] at h
  exact h.symm

/-- Lowering is one edit of all nodes at once. -/
theorem lower_eq_editAll (ht : t.isNode) (hfs : t.HasDistinctFields) (hint : t.HasIntegerLiterals) :
    lower t = t.editAll edit := by
  induction t using induction_children with
  | step t ih =>
    rw [lower_eq_write ht hfs.self, editAll_eq ht, write_lowered? hint]
    congr 1
    exact mapChildren_congr fun c hc => ih c hc (isNode_of_mem_children hc) (hfs.child hc) (hint.child hc)

/-! ## Places -/

theorem tag?_lowerChild {c : Step × Tree} (hfs : (t.fields.map Prod.fst).Nodup) (hc : c ∈ t.children) :
    (lowerChild (lowered? t) c.1 c.2).tag? = c.2.tag? := by
  rcases lowerChild_eq hfs hc with hsame | ⟨hlit, n, hnew⟩
  · rw [hsame, tag?_lower]
  · rw [hnew, eq_of_beq hlit]
    rfl

/-- Every node keeps its place. -/
theorem map_place_walk_lower (ht : t.HasDistinctFields) (hl : t.HasPlainLiterals) :
    (lower t).walk.map Visit.place = t.walk.map Visit.place := by
  induction t using induction_children with
  | step t ih =>
    rw [walk_eq, walk_eq, children_lower ht.self, List.map_cons, List.map_cons, List.map_flatMap, List.map_flatMap,
      List.flatMap_map, Visit.place_root, Visit.place_root, tag?_lower]
    congr 1
    refine List.flatMap_congr fun c hc => ?_
    have hbelow : (lowerChild (lowered? t) c.1 c.2).walk.map Visit.place = c.2.walk.map Visit.place := by
      rcases lowerChild_eq ht.self hc with hsame | ⟨hlit, n, hnew⟩
      · rw [hsame, ih c hc (ht.child hc) (hl.child hc)]
      · -- A literal has no node below it, neither the old one nor the new one.
        rw [hnew, walk_eq, walk_eq, children_number, hl.child hc c.2 (mem_nodes_self _) hlit, List.flatMap_nil,
          List.flatMap_nil, List.map_singleton, List.map_singleton, Visit.place_root, Visit.place_root, eq_of_beq hlit]
        rfl
    have hself : (Visit.ofChild (lower t) (c.1, lowerChild (lowered? t) c.1 c.2)).place = (Visit.ofChild t c).place := by
      simp only [Visit.ofChild, Visit.place, tag?_lowerChild ht.self hc, Option.map_some, tag?_lower, nesting,
        isConditional_lower, isBlock_lower]
    have hunder : ∀ (v : Visit) (ws : List Visit),
        (ws.map v.under).map Visit.place = (ws.map Visit.place).map v.place.under := by
      intro v ws
      simp only [List.map_map, Function.comp_def, Visit.place_under]
    rw [hunder, hunder, hbelow, hself]

/-- A node that is no literal is found in its place, lowered. -/
theorem leads_lower {p : List Step} {u : Tree} (ht : t.HasDistinctFields) (hl : t.HasPlainLiterals) (h : t.Leads p u)
    (hlit : u.hasTag Tag.literal = false) : (lower t).Leads p (lower u) := by
  induction h with
  | here => exact .here _
  | @child t c u s p hc hbelow ih =>
    have hmem : (s, lowerChild (lowered? t) s c) ∈ (lower t).children := by
      rw [children_lower ht.self]
      exact List.mem_map_of_mem hc
    rcases lowerChild_eq ht.self hc with hsame | ⟨hclit, -⟩
    · refine .child hmem ?_
      rw [hsame]
      exact ih (ht.child hc) (hl.child hc) hlit
    · -- Below a literal there is nothing.
      cases hbelow with
      | here => rw [hclit] at hlit; cases hlit
      | child hd _ => rw [hl.child hc c (mem_nodes_self _) hclit] at hd; cases hd

/-- A node that is neither a literal nor a comparison `v < N` with `N ≥ 1` keeps all but what is lowered below it. -/
theorem at?_lower (hnode : t.isNode) (ht : t.HasDistinctFields) (hl : t.HasPlainLiterals) (hint : t.HasIntegerLiterals)
    {v : Visit} (hv : v ∈ t.walk) (hlit : v.node.hasTag Tag.literal = false) (hbound : bound? v.node = none) :
    (lower t).at? v.path = some (v.node.mapChildren fun _ c => lower c) := by
  rw [at?_of_leads (hasDistinctFields_lower ht) (leads_lower ht hl (leads_of_mem_walk hv) hlit)]
  have hmem : v.node ∈ t.nodes := List.mem_map_of_mem hv
  have hnot : isLowerable v.node = false := by rw [← isSome_bound? (hint.of_mem_nodes hmem), hbound]; rfl
  rw [lower_eq_mapChildren (isNode_of_leads hnode (leads_of_mem_walk hv)) (lowered?_of_not_isLowerable hnot)]

/-- The number of comparisons that are lowered is the number of comparisons `v < N` with `N ≥ 1`. -/
theorem count_eq_countP_bound? (hnode : t.isNode) (ht : t.HasDistinctFields) (hl : t.HasPlainLiterals)
    (hint : t.HasIntegerLiterals) : count t = t.nodes.countP fun u => (bound? u).isSome := by
  rw [count_eq hnode ht hl]
  exact List.countP_congr fun u hu => by rw [isSome_bound? (hint.of_mem_nodes hu)]

end RangeTest
end Deflatten
