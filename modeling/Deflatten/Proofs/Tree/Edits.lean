import Deflatten.Tree.Basic
/-!
# Changing a tree at a place

To change a tree twice at one place is to change it once (`Tree.modifyAt_modifyAt`), and a change that leaves the part
there as it is leaves the tree as it is (`Tree.modifyAt_eq_self`). Both hold for every path, as a path that leads nowhere
changes nothing.
-/

namespace Deflatten.Tree

/-! ## Fields -/

theorem lookup_putField (name : String) (value : Tree) (fs : List (String × Tree)) :
    (putField name value fs).lookup name = some value := by
  induction fs with
  | nil => simp [putField]
  | cons field fs ih =>
    obtain ⟨n, v⟩ := field
    rw [putField]
    split
    · rename_i h
      simp [h]
    · rename_i h
      rw [List.lookup_cons, beq_false_of_ne (Ne.symm h)]
      exact ih

theorem putField_putField (name : String) (value value' : Tree) (fs : List (String × Tree)) :
    putField name value' (putField name value fs) = putField name value' fs := by
  induction fs with
  | nil => simp [putField]
  | cons field fs ih =>
    obtain ⟨n, v⟩ := field
    by_cases h : n = name
    · simp [putField, h]
    · simp [putField, h, ih]

theorem putField_of_lookup {name : String} {value : Tree} {fs : List (String × Tree)}
    (h : fs.lookup name = some value) : putField name value fs = fs := by
  induction fs with
  | nil => cases h
  | cons field fs ih =>
    obtain ⟨n, v⟩ := field
    rw [List.lookup_cons] at h
    rw [putField]
    by_cases hn : n = name
    · rw [beq_iff_eq.mpr hn.symm] at h
      rw [if_pos hn, Option.some.inj h]
    · rw [beq_false_of_ne (Ne.symm hn)] at h
      rw [if_neg hn, ih h]

/-! ## Steps -/

variable {t : Tree} {s : Step} {part : Tree}

/-- What leads to a part of a node leads to what is put in its place. -/
theorem step?_setStep_of_isNode (ht : t.isNode) (h : t.step? s = some part) (part' : Tree) :
    (t.setStep s part').step? s = some part' := by
  obtain ⟨name, item⟩ := s
  cases t with
  | node tag fs =>
    cases item with
    | none => exact lookup_putField name part' fs
    | some i =>
      have hitem : ((Tree.node tag fs).get name).items[i]? = some part := h
      obtain ⟨hi, -⟩ := List.getElem?_eq_some_iff.mp hitem
      simp only [setStep, set, step?, get, field?, fields, lookup_putField, Option.getD_some, items]
      exact List.getElem?_set_self hi
  | _ => contradiction

/-- What leads to a part leads to what is put in its place, unless nothing can be put there. -/
theorem step?_setStep (h : t.step? s = some part) (part' : Tree) :
    (t.setStep s part').step? s = some part' ∨ ∀ part'', t.setStep s part'' = t := by
  cases t with
  | node tag fs => exact .inl (step?_setStep_of_isNode rfl h part')
  | scalar _ | list _ | record _ =>
    refine .inr fun part'' => ?_
    obtain ⟨name, item⟩ := s
    cases item <;> rfl

theorem setStep_setStep (t : Tree) (s : Step) (part part' : Tree) :
    (t.setStep s part).setStep s part' = t.setStep s part' := by
  obtain ⟨name, item⟩ := s
  cases t with
  | node tag fs =>
    cases item with
    | none => simp [setStep, set, putField_putField]
    | some i => simp [setStep, set, get, field?, fields, lookup_putField, items, putField_putField]
  | scalar _ | list _ | record _ => cases item <;> rfl

/-- To put a part in its own place changes nothing. -/
theorem setStep_eq_self (h : t.step? s = some part) : t.setStep s part = t := by
  obtain ⟨name, item⟩ := s
  cases t with
  | node tag fs =>
    cases item with
    | none =>
      have hfield : fs.lookup name = some part := h
      rw [setStep, set, putField_of_lookup hfield]
    | some i =>
      have hitem : ((Tree.node tag fs).get name).items[i]? = some part := h
      cases hfield : fs.lookup name with
      | none => simp [get, field?, fields, hfield, items, null] at hitem
      | some value =>
        have hget : (Tree.node tag fs).get name = value := by simp [get, field?, fields, hfield]
        rw [hget] at hitem
        cases value with
        | list ts =>
          have hitem : ts[i]? = some part := hitem
          have hset : ts.set i part = ts := by
            obtain ⟨hi, rfl⟩ := List.getElem?_eq_some_iff.mp hitem
            exact List.set_getElem_self hi
          simp only [setStep, hget, items, set, hset, putField_of_lookup hfield]
        | _ => cases hitem
  | scalar _ | list _ | record _ => cases item <;> rfl

/-! ## Paths -/

theorem at?_append (t : Tree) (p q : List Step) : t.at? (p ++ q) = (t.at? p).bind (·.at? q) := by
  induction p generalizing t with
  | nil => rfl
  | cons s p ih =>
    rw [List.cons_append, at?, at?]
    cases t.step? s with
    | none => rfl
    | some part => exact ih part

theorem modifyAt_append (t : Tree) (f : Tree → Tree) (p q : List Step) :
    t.modifyAt f (p ++ q) = t.modifyAt (fun u => u.modifyAt f q) p := by
  induction p generalizing t with
  | nil => rfl
  | cons s p ih =>
    rw [List.cons_append, modifyAt, modifyAt]
    cases t.step? s with
    | none => rfl
    | some part => simp only [ih]

/-- Two changes at one place are one. -/
theorem modifyAt_modifyAt (t : Tree) (f g : Tree → Tree) (p : List Step) :
    (t.modifyAt f p).modifyAt g p = t.modifyAt (fun u => g (f u)) p := by
  induction p generalizing t with
  | nil => rfl
  | cons s p ih =>
    cases hstep : t.step? s with
    | none => simp only [modifyAt, hstep]
    | some part =>
      have hleft : t.modifyAt f (s :: p) = t.setStep s (part.modifyAt f p) := by simp only [modifyAt, hstep]
      have hright : t.modifyAt (fun u => g (f u)) (s :: p) = t.setStep s ((part.modifyAt f p).modifyAt g p) := by
        simp only [modifyAt, hstep, ih]
      rw [hleft, hright]
      rcases step?_setStep hstep (part.modifyAt f p) with hnew | hfixed
      · simp only [modifyAt, hnew, setStep_setStep]
      · simp only [hfixed, modifyAt, hstep]

/-- A change that leaves the part at a place as it is changes nothing. -/
theorem modifyAt_eq_self {f : Tree → Tree} {p : List Step} {u : Tree} (h : t.at? p = some u) (hf : f u = u) :
    t.modifyAt f p = t := by
  induction p generalizing t with
  | nil =>
    have h : t = u := Option.some.inj h
    rw [h]
    exact hf
  | cons s p ih =>
    rw [at?, Option.bind_eq_some_iff] at h
    obtain ⟨part, hstep, hpart⟩ := h
    simp only [modifyAt, hstep, ih hpart]
    exact setStep_eq_self hstep

end Deflatten.Tree
