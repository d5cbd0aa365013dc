import Deflatten.Proofs.Tree.Fields
/-!
# Changing the children of a node

`Tree.mapChildren` changes the children of a node one by one, each in its place, and nothing else of the node. A pass
over a tree that treats a node by its children is an instance of it; what such a pass does to fields, children and
places is said once here.
-/

namespace Deflatten.Tree

/-- Changes the nodes among the items of a list in a field, counted from `i`. -/
def mapItems (f : Step → Tree → Tree) (name : String) : Nat → List Tree → List Tree
  | _, [] => []
  | i, t :: ts => (if t.isNode then f ⟨name, some i⟩ t else t) :: mapItems f name (i + 1) ts

/-- Changes the nodes that the value of a field contributes. -/
def mapSlot (f : Step → Tree → Tree) (name : String) : Tree → Tree
  | .node tag fs => f ⟨name, none⟩ (.node tag fs)
  | .list ts => .list (mapItems f name 0 ts)
  | value => value

/-- Changes the nodes that fields contribute. -/
def mapFields (f : Step → Tree → Tree) : List (String × Tree) → List (String × Tree)
  | [] => []
  | (name, value) :: fs => (name, if isNote name then value else mapSlot f name value) :: mapFields f fs

/-- Changes the children of a node. -/
def mapChildren (f : Step → Tree → Tree) : Tree → Tree
  | .node tag fs => .node tag (mapFields f fs)
  | t => t

variable {f g : Step → Tree → Tree} {t : Tree}

/-! ## What stays -/

@[simp] theorem tag?_mapChildren (f : Step → Tree → Tree) (t : Tree) : (t.mapChildren f).tag? = t.tag? := by
  cases t <;> rfl

theorem map_fst_mapFields (f : Step → Tree → Tree) (fs : List (String × Tree)) :
    (mapFields f fs).map Prod.fst = fs.map Prod.fst := by
  induction fs with
  | nil => rfl
  | cons _ fs ih => rw [mapFields, List.map_cons, List.map_cons, ih]

@[simp] theorem map_fst_fields_mapChildren (f : Step → Tree → Tree) (t : Tree) :
    (t.mapChildren f).fields.map Prod.fst = t.fields.map Prod.fst := by
  cases t with
  | node _ fs => exact map_fst_mapFields f fs
  | _ => rfl

theorem lookup_mapFields (f : Step → Tree → Tree) (fs : List (String × Tree)) (name : String) :
    (mapFields f fs).lookup name =
      (fs.lookup name).map fun value => if isNote name then value else mapSlot f name value := by
  induction fs with
  | nil => rfl
  | cons field fs ih =>
    obtain ⟨n, v⟩ := field
    rw [mapFields, List.lookup_cons, List.lookup_cons]
    by_cases h : name = n
    · simp [h]
    · rw [beq_false_of_ne h, ih]

theorem getElem?_mapItems (f : Step → Tree → Tree) (name : String) (i k : Nat) (ts : List Tree) :
    (mapItems f name i ts)[k]? = ts[k]?.map fun u => if u.isNode then f ⟨name, some (i + k)⟩ u else u := by
  induction ts generalizing i k with
  | nil => simp [mapItems]
  | cons u us ih =>
    rw [mapItems]
    cases k with
    | zero => rfl
    | succ k => rw [List.getElem?_cons_succ, List.getElem?_cons_succ, ih, Nat.add_assoc, Nat.add_comm 1]

/-- A change that does not depend on the place is one of each node. -/
theorem mapItems_eq_map_ite {h : Tree → Tree} {name : String} (hf : ∀ j u, f ⟨name, some j⟩ u = h u) (i : Nat)
    (ts : List Tree) : mapItems f name i ts = ts.map fun u => if u.isNode then h u else u := by
  induction ts generalizing i with
  | nil => rfl
  | cons u us ih => rw [mapItems, hf, ih, List.map_cons]

/-- Among nodes a change that does not depend on the place is the ordinary one. -/
theorem mapItems_eq_map {h : Tree → Tree} {name : String} {ts : List Tree} (hf : ∀ j u, f ⟨name, some j⟩ u = h u)
    (hts : ∀ u ∈ ts, u.isNode) (i : Nat) : mapItems f name i ts = ts.map h := by
  rw [mapItems_eq_map_ite hf]
  exact List.map_congr_left fun u hu => if_pos (hts u hu)

theorem mapSlot_of_isNode {name : String} {c : Tree} (h : c.isNode) : mapSlot f name c = f ⟨name, none⟩ c := by
  cases c with
  | node _ _ => rfl
  | _ => contradiction

/-! ## Children -/

theorem slotChildren_of_isNode {name : String} {c : Tree} (h : c.isNode) : slotChildren name c = [(⟨name, none⟩, c)] := by
  cases c with
  | node _ _ => rfl
  | _ => contradiction

theorem itemChildren_mapItems (hf : ∀ s c, c.isNode → (f s c).isNode) (name : String) (i : Nat) (ts : List Tree) :
    itemChildren name i (mapItems f name i ts) = (itemChildren name i ts).map fun c => (c.1, f c.1 c.2) := by
  induction ts generalizing i with
  | nil => rfl
  | cons u us ih =>
    rw [mapItems, itemChildren, itemChildren, ih]
    by_cases hu : u.isNode
    · rw [if_pos hu, if_pos (hf _ u hu), if_pos hu, List.map_cons]
    · rw [if_neg hu, if_neg hu, if_neg hu]

theorem slotChildren_mapSlot (hf : ∀ s c, c.isNode → (f s c).isNode) (name : String) (value : Tree) :
    slotChildren name (mapSlot f name value) = (slotChildren name value).map fun c => (c.1, f c.1 c.2) := by
  cases value with
  | scalar _ => rfl
  | record _ => rfl
  | list ts => exact itemChildren_mapItems hf name 0 ts
  | node tag fs =>
    rw [mapSlot, slotChildren_of_isNode (hf _ (.node tag fs) rfl)]
    rfl

/-- The children are changed one by one. -/
theorem children_mapChildren (hf : ∀ s c, c.isNode → (f s c).isNode) (t : Tree) :
    (t.mapChildren f).children = t.children.map fun c => (c.1, f c.1 c.2) := by
  have hfields : ∀ fs, fieldChildren (mapFields f fs) = (fieldChildren fs).map fun c => (c.1, f c.1 c.2) := by
    intro fs
    induction fs with
    | nil => rfl
    | cons field fs ih =>
      obtain ⟨name, value⟩ := field
      rw [mapFields, fieldChildren, fieldChildren, List.map_append, ih]
      by_cases hn : isNote name
      · simp [hn]
      · rw [if_neg hn, if_neg hn, if_neg hn, slotChildren_mapSlot hf]
  cases t with
  | node _ fs => exact hfields fs
  | scalar _ => rfl
  | list _ => rfl
  | record _ => rfl

/-! ## Changes that agree -/

theorem mapItems_congr {name : String} {i : Nat} {ts : List Tree}
    (h : ∀ c ∈ itemChildren name i ts, f c.1 c.2 = g c.1 c.2) : mapItems f name i ts = mapItems g name i ts := by
  induction ts generalizing i with
  | nil => rfl
  | cons u us ih =>
    rw [itemChildren] at h
    rw [mapItems, mapItems]
    by_cases hu : u.isNode
    · rw [if_pos hu] at h
      rw [if_pos hu, if_pos hu, h _ List.mem_cons_self, ih fun c hc => h c (List.mem_cons_of_mem _ hc)]
    · rw [if_neg hu] at h
      rw [if_neg hu, if_neg hu, ih h]

theorem mapSlot_congr {name : String} {value : Tree} (h : ∀ c ∈ slotChildren name value, f c.1 c.2 = g c.1 c.2) :
    mapSlot f name value = mapSlot g name value := by
  cases value with
  | scalar _ => rfl
  | record _ => rfl
  | node tag fs => rw [mapSlot, mapSlot, h (⟨name, none⟩, .node tag fs) List.mem_cons_self]
  | list ts => rw [mapSlot, mapSlot, mapItems_congr h]

theorem mapFields_eq_of_slots {fs : List (String × Tree)}
    (h : ∀ field ∈ fs, mapSlot f field.1 field.2 = mapSlot g field.1 field.2) : mapFields f fs = mapFields g fs := by
  induction fs with
  | nil => rfl
  | cons field fs ih =>
    rw [mapFields, mapFields, h field List.mem_cons_self, ih fun m hm => h m (List.mem_cons_of_mem _ hm)]

theorem mapFields_congr {fs : List (String × Tree)} (h : ∀ c ∈ fieldChildren fs, f c.1 c.2 = g c.1 c.2) :
    mapFields f fs = mapFields g fs := by
  induction fs with
  | nil => rfl
  | cons field fs ih =>
    obtain ⟨name, value⟩ := field
    rw [fieldChildren] at h
    rw [mapFields, mapFields, ih fun c hc => h c (List.mem_append_right _ hc)]
    by_cases hn : isNote name
    · rw [if_pos hn, if_pos hn]
    · rw [if_neg hn] at h
      rw [if_neg hn, if_neg hn, mapSlot_congr fun c hc => h c (List.mem_append_left _ hc)]

/-- Only what a change does to the children matters. -/
theorem mapChildren_congr (h : ∀ c ∈ t.children, f c.1 c.2 = g c.1 c.2) : t.mapChildren f = t.mapChildren g := by
  cases t with
  | node _ fs => rw [mapChildren, mapChildren, mapFields_congr h]
  | scalar _ => rfl
  | list _ => rfl
  | record _ => rfl

/-- Of two changes one after the other, each node sees both. -/
theorem mapSlot_mapSlot (hf : ∀ s c, c.isNode → (f s c).isNode) (name : String)
    (value : Tree) : mapSlot g name (mapSlot f name value) = mapSlot (fun s c => g s (f s c)) name value := by
  have hitems : ∀ i ts, mapItems g name i (mapItems f name i ts) = mapItems (fun s c => g s (f s c)) name i ts := by
    intro i ts
    induction ts generalizing i with
    | nil => rfl
    | cons u us ih =>
      rw [mapItems, mapItems, mapItems, ih]
      by_cases hu : u.isNode
      · rw [if_pos hu, if_pos (hf _ u hu), if_pos hu]
      · rw [if_neg hu, if_neg hu, if_neg hu]
  cases value with
  | scalar _ => rfl
  | record _ => rfl
  | list ts => rw [mapSlot, mapSlot, mapSlot, hitems]
  | node tag fs => exact mapSlot_of_isNode (hf _ (.node tag fs) rfl)

/-- A change that leaves every child as it is changes nothing. -/
theorem mapChildren_eq_self (h : ∀ c ∈ t.children, f c.1 c.2 = c.2) : t.mapChildren f = t := by
  have hitems : ∀ name i ts, mapItems (fun _ c => c) name i ts = ts := by
    intro name i ts
    induction ts generalizing i with
    | nil => rfl
    | cons u us ih => rw [mapItems, ih, ite_self]
  have hslot : ∀ name value, mapSlot (fun _ c => c) name value = value := by
    intro name value
    cases value with
    | list ts => rw [mapSlot, hitems]
    | _ => rfl
  have hfields : ∀ fs, mapFields (fun _ c => c) fs = fs := by
    intro fs
    induction fs with
    | nil => rfl
    | cons field fs ih => rw [mapFields, ih, hslot, ite_self]
  rw [mapChildren_congr (g := fun _ c => c) h]
  cases t with
  | node tag fs => rw [mapChildren, hfields]
  | _ => rfl

/-! ## Places -/

theorem step?_mapChildren {s : Step} {c : Tree} (hf : ∀ s c, c.isNode → (f s c).isNode)
    (hfs : (t.fields.map Prod.fst).Nodup) (hc : (s, c) ∈ t.children) : (t.mapChildren f).step? s = some (f s c) := by
  refine step?_of_mem_children ?_ ?_
  · rwa [map_fst_fields_mapChildren]
  · rw [children_mapChildren hf]
    exact List.mem_map.mpr ⟨(s, c), hc, rfl⟩

theorem putField_mapFields {fs : List (String × Tree)} {name : String} {value x : Tree} (hfs : (fs.map Prod.fst).Nodup)
    (hv : (name, value) ∈ fs) (hn : isNote name = false) (hx : mapSlot g name value = x)
    (hne : ∀ n ≠ name, ∀ v, mapSlot f n v = mapSlot g n v) : putField name x (mapFields f fs) = mapFields g fs := by
  induction fs with
  | nil => cases hv
  | cons field fs ih =>
    obtain ⟨n, v⟩ := field
    rw [List.map_cons, List.nodup_cons] at hfs
    rw [mapFields, mapFields, putField]
    by_cases h : n = name
    · -- The field is this one; no later field has its name.
      subst h
      have hrest : mapFields f fs = mapFields g fs :=
        mapFields_eq_of_slots fun m hm => hne m.1 (fun heq => hfs.1 (List.mem_map.mpr ⟨m, hm, heq⟩)) m.2
      have hvalue : v = value := by
        rcases List.mem_cons.mp hv with heq | hmem
        · exact (Prod.mk.inj heq).2.symm
        · exact absurd (List.mem_map.mpr ⟨_, hmem, rfl⟩) hfs.1
      rw [if_pos rfl, hrest, hvalue, hx, hn, if_neg Bool.false_ne_true]
    · have hmem : (name, value) ∈ fs := by
        rcases List.mem_cons.mp hv with heq | hmem
        · exact absurd (Prod.mk.inj heq).1.symm h
        · exact hmem
      rw [if_neg h, ih hfs.2 hmem, hne n h v]

/-- To change the items of a list and then put another node in the place of one is to change that one otherwise. -/
theorem set_mapItems {name : String} {k : Nat} {ts : List Tree} {c : Tree} (hk : ts[k]? = some c) (hc : c.isNode)
    (hne : ∀ j ≠ k, f ⟨name, some j⟩ = g ⟨name, some j⟩) :
    (mapItems f name 0 ts).set k (g ⟨name, some k⟩ c) = mapItems g name 0 ts := by
  refine List.ext_getElem? fun j => ?_
  rw [List.getElem?_set]
  by_cases hj : k = j
  · subst hj
    have hlen : k < (mapItems f name 0 ts).length := by
      have hget := getElem?_mapItems f name 0 k ts
      rw [hk] at hget
      exact (List.getElem?_eq_some_iff.mp hget).1
    rw [if_pos rfl, if_pos hlen, getElem?_mapItems, hk, Option.map_some, if_pos hc, Nat.zero_add]
  · rw [if_neg hj, getElem?_mapItems, getElem?_mapItems, Nat.zero_add, hne j (Ne.symm hj)]

/-- To change the children and then put another one in a child's place is to change that child otherwise. -/
theorem setStep_mapChildren {s : Step} {c : Tree} (hfs : (t.fields.map Prod.fst).Nodup) (hc : (s, c) ∈ t.children)
    (hne : ∀ s' ≠ s, f s' = g s') : (t.mapChildren f).setStep s (g s c) = t.mapChildren g := by
  cases t with
  | node tag fs =>
    have hfs : (fs.map Prod.fst).Nodup := hfs
    obtain ⟨value, hv, hn, hslot⟩ :
        ∃ value, (s.field, value) ∈ fs ∧ isNote s.field = false ∧ (s, c) ∈ slotChildren s.field value :=
      mem_fieldChildren_iff.mp hc
    have hslots : ∀ n ≠ s.field, ∀ v, mapSlot f n v = mapSlot g n v := by
      intro n hne' v
      refine mapSlot_congr fun d hd => ?_
      rw [hne d.1 fun heq => hne' (by rw [← field_of_mem_slotChildren hd, heq])]
    obtain ⟨hnode, ⟨rfl, hs⟩ | ⟨k, hk, hs⟩⟩ := mem_slotChildren_iff.mp hslot
    · have hx : mapSlot g s.field value = g s value := by rw [mapSlot_of_isNode hnode, ← hs]
      have hitem : s.item = none := by rw [hs]
      simp only [setStep, hitem, mapChildren, set, putField_mapFields hfs hv hn hx hslots]
    · cases value with
      | list ts =>
        have hitem : s.item = some k := by rw [hs]
        have hget : (mapChildren f (.node tag fs)).get s.field = .list (mapItems f s.field 0 ts) := by
          simp only [get, field?, mapChildren, fields, lookup_mapFields, lookup_of_mem hfs hv, hn, Option.map_some,
            Option.getD_some, mapSlot, if_neg Bool.false_ne_true]
        have hx : mapSlot g s.field (.list ts) = .list ((mapItems f s.field 0 ts).set k (g s c)) := by
          have hother : ∀ j ≠ k, f ⟨s.field, some j⟩ = g ⟨s.field, some j⟩ := by
            intro j hj
            refine hne _ fun heq => hj ?_
            rw [hs] at heq
            exact Option.some.inj (Step.mk.inj heq).2
          have hset := set_mapItems hk hnode hother
          rw [← hs, items] at hset
          rw [mapSlot, hset]
        simp only [setStep, hitem, hget, items]
        simp only [mapChildren, set, putField_mapFields hfs hv hn hx hslots]
      | _ => contradiction
  | _ => contradiction

end Deflatten.Tree
