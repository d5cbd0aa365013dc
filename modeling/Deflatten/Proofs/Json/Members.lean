import Deflatten.Proofs.Json.RoundTrip
import Mathlib.Data.List.Nodup
/-!
# The names of members

Of members with one name the reader keeps one. So no object that is read has two members of one name
(`Json.nodup_of_parse`), whatever its text says.
-/

namespace Deflatten.Json

variable {members : List (String × Json)}

theorem map_fst_setMember (name : String) (value : Json) (members : List (String × Json)) :
    (setMember name value members).map Prod.fst =
      if name ∈ members.map Prod.fst then members.map Prod.fst else members.map Prod.fst ++ [name] := by
  induction members with
  | nil => rfl
  | cons m ms ih =>
    obtain ⟨n, v⟩ := m
    rw [setMember, List.map_cons]
    by_cases h : n = name
    · rw [if_pos h, if_pos (h ▸ List.mem_cons_self), List.map_cons]
    · have hmem : name ∈ n :: ms.map Prod.fst ↔ name ∈ ms.map Prod.fst := by simp [Ne.symm h]
      rw [if_neg h, List.map_cons, ih]
      simp only [hmem]
      split <;> rfl

theorem nodup_setMember {name : String} {value : Json} (h : (members.map Prod.fst).Nodup) :
    ((setMember name value members).map Prod.fst).Nodup := by
  rw [map_fst_setMember]
  split
  · exact h
  · next hnew => exact List.nodup_append.mpr ⟨h, List.nodup_singleton name, by
      rintro s hs t ht rfl
      exact hnew (List.mem_singleton.mp ht ▸ hs)⟩

/-- The members that are read are added one by one, so that their names stay different. -/
theorem nodup_of_memberList {rounds : Nat} {cs rest : List Char} {before : List (String × Json)}
    (hbefore : (before.map Prod.fst).Nodup) (h : memberList rounds before cs = .ok (members, rest)) :
    (members.map Prod.fst).Nodup := by
  induction rounds generalizing before cs with
  | zero => cases h
  | succ rounds ih =>
    by_cases hquote : cs.head? = some '"'
    · obtain ⟨cs, rfl⟩ := List.head?_eq_some_iff.mp hquote
      rw [memberList] at h
      obtain ⟨⟨name, more⟩, -, h⟩ := exists_of_bind_eq_ok h
      dsimp only at h
      split at h
      · obtain ⟨⟨j, more⟩, -, h⟩ := exists_of_bind_eq_ok h
        dsimp only at h
        split at h
        · cases h
          exact nodup_setMember hbefore
        · exact ih (nodup_setMember hbefore) h
        · cases h
      · cases h
    · rw [memberList] at h
      · cases h
      · rintro cs rfl
        exact hquote rfl

/-- A word or a number has no members. -/
theorem members_of_plainValue {cs rest : List Char} {j : Json} (h : plainValue cs = .ok (j, rest)) : j.members = [] := by
  have hwords : ∀ w ∈ words, w.2.members.isEmpty := by decide
  rw [plainValue] at h
  split at h
  · rename_i r hword
    cases h
    obtain ⟨w, hw, rfl⟩ := exists_mem_words hword
    exact List.isEmpty_iff.mp (hwords w hw)
  · split at h
    · split at h <;> cases h
      rfl
    · cases h
      rfl
    · cases h

theorem nodup_of_value {rounds : Nat} {cs rest : List Char} {j : Json} (h : value rounds cs = .ok (j, rest)) :
    (j.members.map Prod.fst).Nodup := by
  cases rounds with
  | zero => cases h
  | succ rounds =>
    rw [value.eq_def] at h
    dsimp only at h
    split at h
    · obtain ⟨_, -, heq⟩ := exists_of_map_eq_ok h
      cases heq
      exact List.nodup_nil
    · split at h
      · cases h
        exact List.nodup_nil
      · obtain ⟨_, -, heq⟩ := exists_of_map_eq_ok h
        cases heq
        exact List.nodup_nil
    · split at h
      · cases h
        exact List.nodup_nil
      · obtain ⟨⟨ms, more⟩, hmembers, heq⟩ := exists_of_map_eq_ok h
        cases heq
        have hnone : (([] : List (String × Json)).map Prod.fst).Nodup := List.nodup_nil
        exact nodup_of_memberList hnone hmembers
    · rw [members_of_plainValue h]
      exact List.nodup_nil

/-- No object that is read has two members of one name. -/
theorem nodup_of_parse {cs : List Char} (h : parse cs = .ok (.object members)) : (members.map Prod.fst).Nodup := by
  obtain ⟨_, _, _, hvalue⟩ := exists_value_of_parse h
  exact nodup_of_value hvalue

end Deflatten.Json
