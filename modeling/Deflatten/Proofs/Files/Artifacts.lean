import Deflatten.Artifacts
import Deflatten.Files.Access
/-!
# Names of artifacts

A stem is the name itself or what stands before one of its dots, and the endings of the artifacts begin with no dot, so
that no artifact has the name of its input (`Artifacts.name_ne`). The artifacts have names of their own
(`Artifacts.nodup_names`). Where the input and the directory can be asked for, so can the artifacts
(`Artifacts.fault?_eq_none`).
-/

namespace Deflatten

namespace Path

/-! ## Stems -/

theorem beforeLastDot_eq_some {w before : List Char} (h : beforeLastDot w = some before) :
    ∃ extension, w = before ++ '.' :: extension := by
  induction w generalizing before with
  | nil => contradiction
  | cons c cs ih =>
    rw [beforeLastDot] at h
    cases hcs : beforeLastDot cs with
    | some rest =>
      rw [hcs] at h
      obtain ⟨extension, hrest⟩ := ih hcs
      exact ⟨extension, by rw [← Option.some.inj h, hrest, List.cons_append]⟩
    | none =>
      rw [hcs] at h
      dsimp only at h
      split at h
      · next hc => exact ⟨cs, by rw [← Option.some.inj h, hc, List.nil_append]⟩
      · contradiction

/-- A stem is the whole name, or what stands before a dot. -/
theorem stemOf_cases (w : List Char) : stemOf w = w ∨ ∃ extension, w = stemOf w ++ '.' :: extension := by
  rw [stemOf]
  split
  · exact .inl rfl
  · exact .inl rfl
  · next before _ h =>
    split
    · exact .inl rfl
    · exact .inr (beforeLastDot_eq_some h)

theorem mem_of_mem_stemOf {c : Char} {w : List Char} (h : c ∈ stemOf w) : c ∈ w := by
  obtain hw | ⟨extension, hw⟩ := stemOf_cases w
  · rwa [hw] at h
  · rw [hw]
    exact List.mem_append_left _ h

/-- A stem with an ending that begins with no dot is not the name that it is the stem of. -/
theorem stemOf_append_ne {c : Char} (hc : c ≠ '.') (w ending : List Char) : stemOf w ++ c :: ending ≠ w := by
  intro h
  obtain hw | ⟨extension, hw⟩ := stemOf_cases w
  · have hlength := congrArg List.length h
    rw [hw, List.length_append, List.length_cons] at hlength
    omega
  · exact hc (List.cons.inj (List.append_cancel_left (h.trans hw))).1

/-! ## Characters of a path -/

theorem mem_intercalate {c : Char} (separator : List Char) {w : List Char} {ws : List (List Char)} (hw : w ∈ ws)
    (hc : c ∈ w) : c ∈ separator.intercalate ws := by
  induction ws with
  | nil => cases hw
  | cons v vs ih =>
    cases vs with
    | nil => simp_all
    | cons v' vs' =>
      rw [List.intercalate_cons_cons]
      obtain rfl | hw := List.mem_cons.1 hw
      · simp [hc]
      · exact List.mem_append_right _ (ih hw)

theorem mem_or_mem_of_mem_intercalate {c : Char} {separator : List Char} {ws : List (List Char)}
    (h : c ∈ separator.intercalate ws) : c ∈ separator ∨ ∃ w ∈ ws, c ∈ w := by
  induction ws with
  | nil => simp at h
  | cons v vs ih =>
    cases vs with
    | nil => simp_all
    | cons v' vs' =>
      rw [List.intercalate_cons_cons, List.mem_append, List.mem_append] at h
      obtain (h | h) | h := h
      · exact .inr ⟨v, List.mem_cons_self, h⟩
      · exact .inl h
      · exact (ih h).imp_right fun ⟨w, hw, hc⟩ => ⟨w, List.mem_cons_of_mem _ hw, hc⟩

/-- The characters of a path are those of its names, but for slashes and dots. -/
theorem mem_text {p : Path} {c : Char} (hslash : c ≠ '/') (hdot : c ≠ '.') :
    c ∈ p.text.toList ↔ ∃ name ∈ p.names, c ∈ name.toList := by
  rw [text]
  split
  · next h => simp [h.2, hdot]
  · rw [String.toList_append, String.toList_intercalate, List.mem_append]
    constructor
    · rintro (h | h)
      · cases hroot : p.root <;> simp [hroot, rootText, hslash] at h
      · obtain h | ⟨w, hw, hc⟩ := mem_or_mem_of_mem_intercalate h
        · simp [hslash] at h
        · obtain ⟨name, hname, rfl⟩ := List.mem_map.1 hw
          exact ⟨name, hname, hc⟩
    · rintro ⟨name, hname, hc⟩
      exact .inr (mem_intercalate _ (List.mem_map_of_mem hname) hc)

/-- Whether a character may stand in the path of a file: any but the null character and the surrogates that are no
octets. -/
def isPathChar (c : Char) : Bool := c != '\x00' && !(Surrogate.isHeld c && !isOctet (Surrogate.codePoint c))

theorem unwritable?_eq_none_iff {offset : Nat} {cs : List Char} : Utf8.unwritable? isOctet offset cs = none ↔
    ∀ c ∈ cs, (Surrogate.isHeld c && !isOctet (Surrogate.codePoint c)) = false := by
  induction cs generalizing offset with
  | nil => simp [Utf8.unwritable?]
  | cons c cs ih =>
    rw [Utf8.unwritable?, List.forall_mem_cons]
    split
    · next h => simp [h]
    · next h => simp [h, ih]

theorem fault?_eq_none_iff_text {p : Path} : p.fault? = none ↔ ∀ c ∈ p.text.toList, isPathChar c := by
  have hnull : '\x00' ∉ p.text.toList ↔ ∀ c ∈ p.text.toList, c ≠ '\x00' :=
    ⟨fun h c hc hnull => h (hnull ▸ hc), fun h hc => h _ hc rfl⟩
  simp only [isPathChar, Bool.and_eq_true, forall_and, Bool.not_eq_true', bne_iff_ne, ← hnull,
    ← @unwritable?_eq_none_iff 0]
  rw [fault?]
  cases Utf8.unwritable? isOctet 0 p.text.toList <;> simp

/-- A file system can be asked for a path if every character of its names may stand there. -/
theorem fault?_eq_none_iff {p : Path} : p.fault? = none ↔ ∀ name ∈ p.names, ∀ c ∈ name.toList, isPathChar c := by
  have hothers : ∀ c, ¬isPathChar c → (c ∈ p.text.toList ↔ ∃ name ∈ p.names, c ∈ name.toList) := by
    refine fun c hc => mem_text ?_ ?_ <;>
    · rintro rfl
      exact hc (by decide)
  rw [fault?_eq_none_iff_text]
  constructor
  · intro h name hname c hc
    refine Decidable.byContradiction fun hnot => ?_
    exact hnot (h c ((hothers c hnot).2 ⟨name, hname, hc⟩))
  · intro h c hc
    refine Decidable.byContradiction fun hnot => ?_
    obtain ⟨name, hname, hc⟩ := (hothers c hnot).1 hc
    exact hnot (h name hname c hc)

end Path

namespace Artifacts

/-! ## The artifacts of an input -/

/-- What the names of the artifacts have after the stem of the input. -/
def endings : List String :=
  ["_processed.js", "_condition_mapping.json", "_simple_mapping.json", "_control_flow.json", "_reordered.js"]

/-- The paths of the artifacts. -/
def paths (a : Artifacts) : List Path := a.described.map Prod.fst

variable {input p : Path} {directory : Option Path} {ending : String}

theorem paths_ofInput (input : Path) (directory : Option Path) :
    (ofInput input directory).paths = endings.map fun ending =>
      (directory.getD input.parent).child (input.stem ++ ending) := rfl

@[simp] theorem directory_ofInput (input : Path) (directory : Option Path) :
    (ofInput input directory).directory = directory.getD input.parent := Path.parent_child _ _

theorem exists_ending (h : p ∈ (ofInput input directory).paths) :
    ∃ ending ∈ endings, p = (directory.getD input.parent).child (input.stem ++ ending) := by
  rw [paths_ofInput] at h
  obtain ⟨ending, he, rfl⟩ := List.mem_map.1 h
  exact ⟨ending, he, rfl⟩

theorem endings_plain : ∀ ending ∈ endings,
    ending.toList.head? = some '_' ∧ ending.toList.all Path.isPathChar := by
  decide

theorem stem_append_toList (input : Path) (ending : String) :
    (input.stem ++ ending).toList = Path.stemOf input.name.toList ++ ending.toList := by
  rw [Path.stem, String.toList_append, String.toList_ofList]

/-- No artifact has the name of its input. -/
theorem name_ne (h : p ∈ (ofInput input directory).paths) : p.name ≠ input.name := by
  obtain ⟨ending, hending, rfl⟩ := exists_ending h
  obtain ⟨rest, hrest⟩ := List.head?_eq_some_iff.1 (endings_plain ending hending).1
  rw [Path.name_child]
  intro hname
  refine Path.stemOf_append_ne (show '_' ≠ '.' by decide) input.name.toList rest ?_
  rw [← hrest, ← stem_append_toList, hname]

/-- An artifact has a name of its own to end in, which leads to no directory above. -/
theorem getLast?_names (h : p ∈ (ofInput input directory).paths) : p.names.getLast? = some p.name ∧ p.name ≠ ".." := by
  obtain ⟨ending, hending, rfl⟩ := exists_ending h
  refine ⟨by simp [Path.child, Path.name], ?_⟩
  rw [Path.name_child]
  intro hname
  have hmem : '_' ∈ (input.stem ++ ending).toList := by
    rw [stem_append_toList]
    exact List.mem_append_right _ (List.mem_of_mem_head? (endings_plain ending hending).1)
  rw [hname] at hmem
  revert hmem
  decide

/-- The artifacts differ in their names. -/
theorem nodup_names (input : Path) (directory : Option Path) :
    ((ofInput input directory).paths.map Path.name).Nodup := by
  have hends : endings.Nodup := by decide
  rw [paths_ofInput, List.map_map]
  refine List.Pairwise.map _ (fun e e' hne heq => hne ?_) hends
  simpa using heq

theorem isPathChar_of_mem_stem (h : input.fault? = none) {c : Char} (hc : c ∈ input.stem.toList) :
    Path.isPathChar c := by
  rw [Path.stem, String.toList_ofList] at hc
  have hname := Path.mem_of_mem_stemOf hc
  refine Path.fault?_eq_none_iff.1 h input.name ?_ c hname
  cases hlast : input.names.getLast? with
  | none => simp [Path.name, hlast] at hname
  | some name =>
    rw [Path.name, hlast]
    exact List.mem_of_getLast? hlast

/-- A file system can be asked for an artifact if it can be asked for the input and the directory. -/
theorem fault?_eq_none (hinput : input.fault? = none) (hdirectory : (ofInput input directory).directory.fault? = none)
    (h : p ∈ (ofInput input directory).paths) : p.fault? = none := by
  obtain ⟨ending, hending, rfl⟩ := exists_ending h
  rw [directory_ofInput, Path.fault?_eq_none_iff] at hdirectory
  refine Path.fault?_eq_none_iff.2 (List.forall_mem_append.2 ⟨hdirectory, List.forall_mem_singleton.2 fun c hc => ?_⟩)
  rw [String.toList_append, List.mem_append] at hc
  exact hc.elim (isPathChar_of_mem_stem hinput) (List.all_eq_true.1 (endings_plain ending hending).2 c)

end Artifacts
end Deflatten
