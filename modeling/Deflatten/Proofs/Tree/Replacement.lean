import Deflatten.Proofs.Tests
import Deflatten.Proofs.Tree.DocumentOrder
import Deflatten.Proofs.Tree.Edits
/-!
# Nodes after a change at a place

A change at a place leaves every node where it was, and each is what it was but for what stands below it, unless it
stands at the place or below (`Tree.leads_modifyAt`). `Tree.Keeps` says what stays of a node whose children are changed.
-/

namespace Deflatten.Tree

variable {t u v w : Tree} {f : Tree → Tree} {p q : List Step} {s : Step}

/-- A node is another one but for what stands below: it has its type, the names of its fields and its number, and it is the
other one itself if nothing stands below that. -/
structure Keeps (u w : Tree) : Prop where
  tag : w.tag? = u.tag?
  names : w.fields.map Prod.fst = u.fields.map Prod.fst
  number : w.number? = u.number?
  same : u.isNode → u.children = [] → w = u

namespace Keeps

theorem refl (u : Tree) : u.Keeps u := ⟨rfl, rfl, rfl, fun _ _ => rfl⟩

theorem trans (h : u.Keeps v) (h' : v.Keeps w) : u.Keeps w where
  tag := h'.tag.trans h.tag
  names := h'.names.trans h.names
  number := h'.number.trans h.number
  same := fun hnode hc => by
    have hv := h.same hnode hc
    rw [hv] at h'
    exact h'.same hnode hc

theorem hasTag (h : u.Keeps w) (tag : String) : w.hasTag tag = u.hasTag tag := by rw [Tree.hasTag, Tree.hasTag, h.tag]

theorem isNode (h : u.Keeps w) : w.isNode = u.isNode := by rw [Tree.isNode, Tree.isNode, h.tag]

theorem mapChildren {f : Step → Tree → Tree} (hf : ∀ s c, c.isNode → (f s c).isNode) (u : Tree) :
    u.Keeps (u.mapChildren f) where
  tag := tag?_mapChildren f u
  names := map_fst_fields_mapChildren f u
  number := number?_mapChildren hf u
  same := fun _ hc => mapChildren_eq_self fun c hmem => by rw [hc] at hmem; cases hmem

end Keeps

/-! ## Steps to children -/

/-- A node at a step is a child, unless the field holds notes. -/
theorem mem_children_of_step? {c : Tree} (ht : t.isNode) (hs : isNote s.field = false) (h : t.step? s = some c)
    (hc : c.isNode) : (s, c) ∈ t.children := by
  obtain ⟨name, item⟩ := s
  cases t with
  | node tag fs =>
    cases item with
    | none =>
      have hfield : fs.lookup name = some c := h
      exact mem_fieldChildren_iff.mpr ⟨c, mem_of_lookup hfield, hs, mem_slotChildren_iff.mpr ⟨hc, .inl ⟨rfl, rfl⟩⟩⟩
    | some i =>
      have hitem : ((Tree.node tag fs).get name).items[i]? = some c := h
      cases hfield : fs.lookup name with
      | none => simp [get, field?, fields, hfield, items, null] at hitem
      | some value =>
        have hget : (Tree.node tag fs).get name = value := by simp [get, field?, fields, hfield]
        rw [hget] at hitem
        exact mem_fieldChildren_iff.mpr
          ⟨value, mem_of_lookup hfield, hs, mem_slotChildren_iff.mpr ⟨hc, .inr ⟨i, hitem, rfl⟩⟩⟩
  | _ => contradiction

theorem not_isNote_of_mem_children {c : Step × Tree} (h : c ∈ t.children) : isNote c.1.field = false := by
  cases t with
  | node tag fs => exact (mem_fieldChildren_iff.mp h).choose_spec.2.1
  | _ => contradiction

theorem not_isNote_of_leads (h : t.Leads p u) : ∀ s ∈ p, isNote s.field = false := by
  induction h with
  | here => exact fun s hs => by cases hs
  | child hc _ ih =>
    intro s hs
    rcases List.mem_cons.mp hs with rfl | hs
    · exact not_isNote_of_mem_children hc
    · exact ih s hs

theorem isNode_of_mem_children_parent {c : Step × Tree} (h : c ∈ t.children) : t.isNode := by
  cases t with
  | node _ _ => rfl
  | _ => contradiction

/-- A path leads to one node. -/
theorem Leads.unique (ht : t.HasDistinctFields) (h : t.Leads p u) (h' : t.Leads p v) : u = v :=
  Option.some.inj ((at?_of_leads ht h).symm.trans (at?_of_leads ht h'))

/-- To set a field adds no child but what the field then holds. -/
theorem mem_children_set {name : String} {value : Tree} {c : Step × Tree} (h : c ∈ (t.set name value).children) :
    c ∈ t.children ∨ c ∈ slotChildren name value := by
  have hfields : ∀ fs, c ∈ fieldChildren (putField name value fs) →
      c ∈ fieldChildren fs ∨ c ∈ slotChildren name value := by
    intro fs hmem
    induction fs with
    | nil =>
      rw [putField, fieldChildren, fieldChildren, List.append_nil] at hmem
      split at hmem
      · cases hmem
      · exact .inr hmem
    | cons field fs ih =>
      obtain ⟨n, v⟩ := field
      rw [putField] at hmem
      split at hmem
      · rename_i hn
        rw [fieldChildren, List.mem_append] at hmem
        rcases hmem with hown | hrest
        · split at hown
          · cases hown
          · rw [hn] at hown
            exact .inr hown
        · exact .inl (List.mem_append_right _ hrest)
      · rw [fieldChildren, List.mem_append] at hmem
        rcases hmem with hown | hrest
        · exact .inl (List.mem_append_left _ hown)
        · exact (ih hrest).imp_left (List.mem_append_right _)
  cases t with
  | node tag fs => exact hfields fs h
  | _ => exact .inl h

/-! ## Changes -/

@[simp] theorem isNode_setStep (t : Tree) (s : Step) (part : Tree) : (t.setStep s part).isNode = t.isNode := by
  obtain ⟨name, item⟩ := s
  cases t <;> cases item <;> rfl

theorem setStep_of_not_isNode (ht : t.isNode = false) (s : Step) (part : Tree) : t.setStep s part = t := by
  obtain ⟨name, item⟩ := s
  cases t with
  | node _ _ => cases ht
  | _ => cases item <;> rfl

theorem modifyAt_of_not_isNode (ht : t.isNode = false) (hf : f t = t) (p : List Step) : t.modifyAt f p = t := by
  cases p with
  | nil => exact hf
  | cons s p =>
    rw [modifyAt]
    split
    · rfl
    · exact setStep_of_not_isNode ht s _

/-- A path that leads to no node is no place of a change of nodes. -/
theorem modifyAt_eq_self_or_leads (hf : ∀ u : Tree, u.isNode = false → f u = u) (hp : ∀ s ∈ p, isNote s.field = false) :
    t.modifyAt f p = t ∨ ∃ u, t.Leads p u := by
  induction p generalizing t with
  | nil => exact .inr ⟨t, .here t⟩
  | cons s p ih =>
    cases ht : t.isNode with
    | false => exact .inl (modifyAt_of_not_isNode ht (hf t ht) _)
    | true =>
      cases hstep : t.step? s with
      | none => exact .inl (by simp only [modifyAt, hstep])
      | some c =>
        have hset : c.modifyAt f p = c → t.modifyAt f (s :: p) = t := fun hsame => by
          simp only [modifyAt, hstep, hsame]
          exact setStep_eq_self hstep
        cases hc : c.isNode with
        | false => exact .inl (hset (modifyAt_of_not_isNode hc (hf c hc) p))
        | true =>
          rcases ih fun s' hs' => hp s' (List.mem_cons_of_mem _ hs') with hsame | ⟨u, hu⟩
          · exact .inl (hset hsame)
          · exact .inr ⟨u, .child (mem_children_of_step? ht (hp s List.mem_cons_self) hstep hc) hu⟩

theorem isNode_modifyAt (h : t.Leads p u) (hu : (f u).isNode) : (t.modifyAt f p).isNode := by
  cases h with
  | here => exact hu
  | child hc _ =>
    have ht := isNode_of_mem_children_parent hc
    rw [modifyAt]
    split
    · exact ht
    · rwa [isNode_setStep]

/-- A change below a child is a change of this child. -/
theorem modifyAt_of_child {c : Tree} (hfs : (t.fields.map Prod.fst).Nodup) (hc : (s, c) ∈ t.children) :
    t.modifyAt f (s :: p) = t.mapChildren fun s' d => if s' = s then c.modifyAt f p else d := by
  have hset := setStep_mapChildren (f := fun _ d => d) (g := fun s' d => if s' = s then c.modifyAt f p else d) hfs hc
    fun s' hs' => by simp only [if_neg hs']
  rw [mapChildren_eq_self fun _ _ => rfl, if_pos rfl] at hset
  simp only [modifyAt, step?_of_mem_children hfs hc, hset]

/-- After a change at a place every node that neither stands there nor below is what it was but for what stands below it,
and it stands where it stood. -/
theorem leads_modifyAt (ht : t.HasDistinctFields) (hu : t.Leads p u) (hnode : (f u).isNode)
    (hw : (t.modifyAt f p).Leads q w) :
    (∃ v, t.Leads q v ∧ v.Keeps w) ∨ ∃ r, q = p ++ r ∧ (f u).Leads r w := by
  induction hu generalizing q w with
  | here => exact .inr ⟨q, rfl, hw⟩
  | @child t c u s p hc hbelow ih =>
    have hchild : (c.modifyAt f p).isNode := isNode_modifyAt hbelow hnode
    have hkeep : ∀ s' (d : Tree), d.isNode → (if s' = s then c.modifyAt f p else d).isNode := by
      intro s' d hd
      split
      · exact hchild
      · exact hd
    rw [modifyAt_of_child ht.self hc] at hw
    cases hw with
    | here => exact .inl ⟨t, .here t, .mapChildren hkeep t⟩
    | child hd' hw =>
      rw [children_mapChildren hkeep] at hd'
      obtain ⟨⟨s', d⟩, hd, heq⟩ := List.mem_map.mp hd'
      obtain ⟨rfl, rfl⟩ := Prod.mk.inj heq
      by_cases hs : s' = s
      · subst hs
        simp only [if_true] at hw
        rcases ih (ht.child hc) hnode hw with ⟨v, hv, hkeeps⟩ | ⟨r, rfl, hr⟩
        · exact .inl ⟨v, .child hc hv, hkeeps⟩
        · exact .inr ⟨r, rfl, hr⟩
      · simp only [if_neg hs] at hw
        exact .inl ⟨w, .child hd hw, .refl w⟩

end Deflatten.Tree
