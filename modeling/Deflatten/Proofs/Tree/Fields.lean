import Deflatten.Proofs.Tree.Preorder
import Mathlib.Data.List.Nodup
/-!
# Fields and places

An object has each of its fields once. In a tree of such nodes a child is found at the step that leads to it
(`Tree.step?_of_mem_children`), a node at its path (`Tree.at?_of_leads`), and no two nodes have one path
(`Tree.nodup_paths_walk`).
-/

namespace Deflatten.Tree

@[simp] theorem get_cons_self (tag name : String) (value : Tree) (fs : List (String × Tree)) :
    (node tag ((name, value) :: fs)).get name = value := by
  simp [get, field?, fields]

@[simp] theorem get_cons_of_ne {name n : String} (h : name ≠ n) (tag : String) (value : Tree)
    (fs : List (String × Tree)) : (node tag ((n, value) :: fs)).get name = (node tag fs).get name := by
  simp [get, field?, fields, List.lookup_cons, beq_false_of_ne h]

/-! ## Children by the fields they stand in -/

theorem mem_itemChildren_iff {name : String} {i : Nat} {ts : List Tree} {s : Step} {c : Tree} :
    (s, c) ∈ itemChildren name i ts ↔ ∃ k, ts[k]? = some c ∧ c.isNode ∧ s = ⟨name, some (i + k)⟩ := by
  induction ts generalizing i with
  | nil => simp [itemChildren]
  | cons t ts ih =>
    have hrest : (s, c) ∈ itemChildren name (i + 1) ts ↔
        ∃ k, (t :: ts)[k + 1]? = some c ∧ c.isNode ∧ s = ⟨name, some (i + (k + 1))⟩ := by
      rw [ih]
      simp only [List.getElem?_cons_succ, Nat.add_assoc, Nat.add_comm 1]
    have hsplit : (∃ k, (t :: ts)[k]? = some c ∧ c.isNode ∧ s = ⟨name, some (i + k)⟩) ↔
        (t = c ∧ c.isNode ∧ s = ⟨name, some i⟩) ∨ (s, c) ∈ itemChildren name (i + 1) ts := by
      rw [hrest]
      constructor
      · rintro ⟨k, hk⟩
        cases k with
        | zero => exact .inl (by simpa using hk)
        | succ k => exact .inr ⟨k, hk⟩
      · rintro (h | ⟨k, hk⟩)
        · exact ⟨0, by simpa using h⟩
        · exact ⟨k + 1, hk⟩
    rw [hsplit, itemChildren]
    by_cases ht : t.isNode
    · rw [if_pos ht, List.mem_cons, Prod.mk.injEq]
      constructor
      · rintro (⟨rfl, rfl⟩ | h)
        · exact .inl ⟨rfl, ht, rfl⟩
        · exact .inr h
      · rintro (⟨rfl, -, rfl⟩ | h)
        · exact .inl ⟨rfl, rfl⟩
        · exact .inr h
    · rw [if_neg ht]
      constructor
      · exact .inr
      · rintro (⟨rfl, hc, -⟩ | h)
        · exact absurd hc ht
        · exact h

/-- Where a child stands in the value of a field. -/
theorem mem_slotChildren_iff {name : String} {value : Tree} {s : Step} {c : Tree} :
    (s, c) ∈ slotChildren name value ↔ c.isNode ∧
      ((value = c ∧ s = ⟨name, none⟩) ∨ ∃ k, value.items[k]? = some c ∧ s = ⟨name, some k⟩) := by
  cases value with
  | scalar _ => simp [slotChildren, items, isNode, tag?]; rintro h rfl; simp at h
  | record _ => simp [slotChildren, items, isNode, tag?]; rintro h rfl; simp at h
  | node tag fs =>
    simp only [slotChildren, List.mem_singleton, Prod.mk.injEq, items, List.getElem?_nil]
    constructor
    · rintro ⟨rfl, rfl⟩
      exact ⟨rfl, .inl ⟨rfl, rfl⟩⟩
    · rintro ⟨-, ⟨rfl, rfl⟩ | ⟨k, hk, -⟩⟩
      · exact ⟨rfl, rfl⟩
      · cases hk
  | list ts =>
    simp only [slotChildren, mem_itemChildren_iff, items, Nat.zero_add]
    constructor
    · rintro ⟨k, hk, hc, hs⟩
      exact ⟨hc, .inr ⟨k, hk, hs⟩⟩
    · rintro ⟨hc, ⟨rfl, -⟩ | ⟨k, hk, hs⟩⟩
      · cases hc
      · exact ⟨k, hk, hc, hs⟩

theorem field_of_mem_slotChildren {name : String} {value : Tree} {c : Step × Tree} (h : c ∈ slotChildren name value) :
    c.1.field = name := by
  obtain ⟨s, c⟩ := c
  rcases (mem_slotChildren_iff.mp h).2 with ⟨-, rfl⟩ | ⟨k, -, rfl⟩ <;> rfl

theorem mem_fieldChildren_iff {fs : List (String × Tree)} {c : Step × Tree} :
    c ∈ fieldChildren fs ↔ ∃ value, (c.1.field, value) ∈ fs ∧ isNote c.1.field = false ∧
      c ∈ slotChildren c.1.field value := by
  induction fs with
  | nil => simp [fieldChildren]
  | cons f fs ih =>
    obtain ⟨name, value⟩ := f
    rw [fieldChildren, List.mem_append, ih]
    constructor
    · rintro (h | ⟨v, hv, h⟩)
      · by_cases hn : isNote name
        · simp [hn] at h
        · rw [if_neg hn] at h
          have hname := field_of_mem_slotChildren h
          exact ⟨value, by simp [hname], by simpa [hname] using hn, by rwa [hname]⟩
      · exact ⟨v, List.mem_cons_of_mem _ hv, h⟩
    · rintro ⟨v, hv, hn, h⟩
      rcases List.mem_cons.mp hv with heq | hv
      · obtain ⟨hname, rfl⟩ := Prod.mk.inj heq
        exact .inl (by rw [← hname]; simpa [hn] using h)
      · exact .inr ⟨v, hv, hn, h⟩

theorem isNode_of_mem_children {t : Tree} {c : Step × Tree} (h : c ∈ t.children) : c.2.isNode := by
  cases t with
  | node tag fs =>
    obtain ⟨v, -, -, h⟩ := mem_fieldChildren_iff.mp h
    exact (mem_slotChildren_iff.mp h).1
  | _ => contradiction

/-! ## Distinct fields -/

/-- No node of a tree has two fields of one name. -/
def HasDistinctFields (t : Tree) : Prop := ∀ u ∈ t.nodes, (u.fields.map Prod.fst).Nodup

instance (t : Tree) : Decidable t.HasDistinctFields := inferInstanceAs (Decidable (∀ u ∈ t.nodes, _))

theorem HasDistinctFields.self {t : Tree} (h : t.HasDistinctFields) : (t.fields.map Prod.fst).Nodup :=
  h t t.mem_nodes_self

theorem HasDistinctFields.of_mem_nodes {t u : Tree} (h : t.HasDistinctFields) (hu : u ∈ t.nodes) :
    u.HasDistinctFields :=
  fun w hw => h w (nodes_subset hu hw)

theorem HasDistinctFields.child {t : Tree} {c : Step × Tree} (h : t.HasDistinctFields) (hc : c ∈ t.children) :
    c.2.HasDistinctFields :=
  h.of_mem_nodes (mem_nodes_of_child hc c.2.mem_nodes_self)

theorem mem_of_lookup {β : Type} {fs : List (String × β)} {name : String} {value : β}
    (h : fs.lookup name = some value) : (name, value) ∈ fs := by
  obtain ⟨l₁, l₂, rfl, -⟩ := List.lookup_eq_some_iff.mp h
  exact List.mem_append_right _ List.mem_cons_self

/-- Among fields of distinct names each is found. -/
theorem lookup_of_mem {β : Type} {fs : List (String × β)} {name : String} {value : β}
    (hfs : (fs.map Prod.fst).Nodup) (h : (name, value) ∈ fs) : fs.lookup name = some value := by
  induction fs with
  | nil => cases h
  | cons f fs ih =>
    obtain ⟨n, v⟩ := f
    rw [List.map_cons, List.nodup_cons] at hfs
    rw [List.lookup_cons]
    rcases List.mem_cons.mp h with heq | hmem
    · obtain ⟨rfl, rfl⟩ := Prod.mk.inj heq
      simp
    · have hne : name ≠ n := by
        rintro rfl
        exact hfs.1 (List.mem_map.mpr ⟨_, hmem, rfl⟩)
      rw [beq_false_of_ne hne]
      exact ih hfs.2 hmem

/-- A child is found at the step that leads to it. -/
theorem step?_of_mem_children {t : Tree} {s : Step} {c : Tree} (hfs : (t.fields.map Prod.fst).Nodup)
    (h : (s, c) ∈ t.children) : t.step? s = some c := by
  cases t with
  | node tag fs =>
    obtain ⟨value, hv, -, hslot⟩ := mem_fieldChildren_iff.mp h
    have hfield : field? (.node tag fs) s.field = some value := lookup_of_mem hfs hv
    rcases (mem_slotChildren_iff.mp hslot).2 with ⟨rfl, hs⟩ | ⟨k, hk, hs⟩
    · have hitem : s.item = none := by rw [hs]
      simp only [step?, hitem, hfield]
    · have hitem : s.item = some k := by rw [hs]
      simp only [step?, hitem, get, hfield, Option.getD_some, hk]
  | _ => contradiction

theorem at?_of_leads {t u : Tree} {p : List Step} (ht : t.HasDistinctFields) (h : t.Leads p u) : t.at? p = some u := by
  induction h with
  | here => rfl
  | child hc _ ih => rw [at?, step?_of_mem_children ht.self hc, Option.bind_some, ih (ht.child hc)]

/-! ## Distinct paths -/

theorem nodup_steps_itemChildren (name : String) (i : Nat) (ts : List Tree) :
    ((itemChildren name i ts).map Prod.fst).Nodup := by
  induction ts generalizing i with
  | nil => simp [itemChildren]
  | cons t ts ih =>
    rw [itemChildren]
    split
    · rw [List.map_cons, List.nodup_cons]
      refine ⟨fun hmem => ?_, ih (i + 1)⟩
      obtain ⟨⟨s, c⟩, hc, hs⟩ := List.mem_map.mp hmem
      obtain ⟨k, -, -, hk⟩ := mem_itemChildren_iff.mp hc
      simp only [hk, Step.mk.injEq, Option.some.injEq, true_and] at hs
      omega
    · exact ih (i + 1)

theorem nodup_steps_fieldChildren {fs : List (String × Tree)} (hfs : (fs.map Prod.fst).Nodup) :
    ((fieldChildren fs).map Prod.fst).Nodup := by
  induction fs with
  | nil => simp [fieldChildren]
  | cons f fs ih =>
    obtain ⟨name, value⟩ := f
    rw [List.map_cons, List.nodup_cons] at hfs
    have hslot : ((slotChildren name value).map Prod.fst).Nodup := by
      cases value with
      | scalar _ => simp [slotChildren]
      | record _ => simp [slotChildren]
      | node _ _ => simp [slotChildren]
      | list ts => exact nodup_steps_itemChildren name 0 ts
    rw [fieldChildren, List.map_append]
    refine List.Nodup.append ?_ (ih hfs.2) fun s hs hs' => ?_
    · split
      · exact List.nodup_nil
      · exact hslot
    · obtain ⟨c, hc, rfl⟩ := List.mem_map.mp hs
      obtain ⟨c', hc', heq⟩ := List.mem_map.mp hs'
      obtain ⟨v, hv, -, -⟩ := mem_fieldChildren_iff.mp hc'
      have hname : c.1.field = name := by
        split at hc
        · cases hc
        · exact field_of_mem_slotChildren hc
      exact hfs.1 (List.mem_map.mpr ⟨_, hv, by rw [heq, hname]⟩)

theorem nodup_steps_children {t : Tree} (hfs : (t.fields.map Prod.fst).Nodup) : (t.children.map Prod.fst).Nodup := by
  cases t with
  | node _ _ => exact nodup_steps_fieldChildren hfs
  | scalar _ => exact List.nodup_nil
  | list _ => exact List.nodup_nil
  | record _ => exact List.nodup_nil

/-- The paths in the walk of a node: the empty one, and those below each child. -/
theorem map_path_walk (t : Tree) : t.walk.map Visit.path =
    [] :: t.children.flatMap fun c => (c.2.walk.map Visit.path).map (c.1 :: ·) := by
  rw [walk_eq, List.map_cons, List.map_flatMap]
  simp [Visit.root, Visit.ofChild, List.map_map, Function.comp_def]

/-- No two nodes of a tree have one path. -/
theorem nodup_paths_walk {t : Tree} (ht : t.HasDistinctFields) : (t.walk.map Visit.path).Nodup := by
  induction t using induction_children with
  | step t ih =>
    rw [map_path_walk, List.nodup_cons]
    refine ⟨by simp [List.mem_flatMap], List.nodup_flatMap.mpr ⟨fun c hc => ?_, ?_⟩⟩
    · exact (ih c hc (ht.child hc)).map fun p q h => (List.cons.inj h).2
    · refine (List.pairwise_map.mp (nodup_steps_children ht.self)).imp fun {c d} hne => ?_
      intro p hp hq
      obtain ⟨p', -, rfl⟩ := List.mem_map.mp hp
      obtain ⟨q', -, hq'⟩ := List.mem_map.mp hq
      exact hne (List.cons.inj hq').1.symm

end Deflatten.Tree
