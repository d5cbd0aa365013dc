import Deflatten.Files.Store
/-!
# Changes of a store

Making directories and writing a file leave every directory where it stands and change no file but the one that is
written (`Keeps`). So a path that leads to a place still leads there after any such step (`Keeps.place`). In a store in
which everything stands in a directory, a file is found under its own name (`IsTree.getLast?_of_place`).
-/

namespace Deflatten.Store

variable {s t u : Store} {p : Path} {q : Place} {name : String} {names : List String} {octets : List UInt8}

/-! ## Stores that are trees -/

/-- Whether everything stands in a directory, and relative paths start from one. -/
def IsTree (s : Store) : Prop :=
  s.holds? s.current = some .directory ∧ ∀ e ∈ s.entries, s.holds? e.1.dropLast = some .directory

instance (s : Store) : Decidable s.IsTree := inferInstanceAs (Decidable (_ ∧ _))

theorem IsTree.holds?_dropLast (hs : s.IsTree) {e : Entry} (he : s.holds? q = some e) :
    s.holds? q.dropLast = some .directory := by
  by_cases hq : q = []
  · rw [hq]
    rfl
  · rw [holds?, if_neg hq] at he
    obtain ⟨before, after, hentries, -⟩ := List.lookup_eq_some_iff.1 he
    exact hs.2 (q, e) (by simp [hentries])

/-! ## Following names -/

/-- A name is followed from a directory only, to the one above it or to what has the name in it. -/
theorem follow_cons_eq_ok {start : Place} : s.follow start (name :: names) = .ok q ↔
    s.holds? start = some .directory ∧ ¬ Path.maxName < Path.octetCount name ∧
      s.follow (if name = ".." then start.dropLast else start ++ [name]) names = .ok q := by
  rw [follow]
  cases s.holds? start with
  | none => simp
  | some e =>
    cases e with
    | file _ => simp
    | directory => by_cases hname : Path.maxName < Path.octetCount name <;> simp [hname]

theorem follow_concat {start : Place} (h : s.follow start (names ++ [name]) = .ok q) :
    ∃ d, s.holds? d = some .directory ∧ q = if name = ".." then d.dropLast else d ++ [name] := by
  induction names generalizing start with
  | nil =>
    obtain ⟨hd, -, hq⟩ := follow_cons_eq_ok.1 h
    exact ⟨start, hd, (Except.ok.inj hq).symm⟩
  | cons first rest ih => exact ih (follow_cons_eq_ok.1 h).2.2

theorem place_eq_ok : s.place p = .ok q ↔
    ¬ Path.maxPath < Path.octetCount p.text ∧
      s.follow (if p.root = .here then s.current else []) p.names = .ok q := by
  rw [place]
  by_cases hp : Path.maxPath < Path.octetCount p.text <;> simp [hp]

/-- A path that ends in a name leads to a place with that name. -/
theorem getLast?_of_place (h : s.place p = .ok q) (hlast : p.names.getLast? = some name) (hname : name ≠ "..") :
    q.getLast? = some name := by
  have hfollow := (place_eq_ok.1 h).2
  obtain ⟨above, habove⟩ := List.getLast?_eq_some_iff.1 hlast
  rw [habove] at hfollow
  obtain ⟨d, -, hq⟩ := follow_concat hfollow
  rw [hq, if_neg hname, List.getLast?_concat]

/-- A path that leads to a file ends in the name of the file. -/
theorem IsTree.getLast?_of_place (hs : s.IsTree) (h : s.place p = .ok q)
    (hq : s.holds? q = some (.file octets)) : q.getLast? = some p.name := by
  cases hlast : p.names.getLast? with
  | none =>
    -- Without names a path leads to where it starts, which is a directory.
    have hfollow := (place_eq_ok.1 h).2
    rw [List.getLast?_eq_none_iff.1 hlast] at hfollow
    have hstart : s.holds? q = some .directory := by
      rw [← Except.ok.inj hfollow]
      split
      · exact hs.1
      · rfl
    cases hstart.symm.trans hq
  | some name =>
    rw [Path.name, hlast, Option.getD_some]
    refine Store.getLast?_of_place h hlast fun hname => ?_
    have hfollow := (place_eq_ok.1 h).2
    obtain ⟨above, habove⟩ := List.getLast?_eq_some_iff.1 hlast
    rw [habove] at hfollow
    obtain ⟨d, hd, hqd⟩ := follow_concat hfollow
    rw [if_pos hname] at hqd
    cases (hs.holds?_dropLast hd).symm.trans (hqd ▸ hq)

/-! ## Files at the end of a path -/

theorem find_eq_ok {e : Entry} : s.find p = .ok e ↔ ∃ q, s.place p = .ok q ∧ s.holds? q = some e := by
  rw [find]
  cases s.place p with
  | error refusal => simp [bind, Except.bind]
  | ok q =>
    cases hq : s.holds? q <;> simp [bind, Except.bind, hq, pure, Except.pure, throw, throwThe, MonadExceptOf.throw]

theorem content_eq_ok : s.content p = .ok octets ↔
    p.fault? = none ∧ ∃ q, s.place p = .ok q ∧ s.holds? q = some (.file octets) := by
  rw [← find_eq_ok, content]
  cases p.fault? with
  | some fault => simp
  | none =>
    cases s.find p with
    | error refusal => simp
    | ok e => cases e <;> simp

/-- What has a content is a file. -/
theorem isFile_of_content (h : s.content p = .ok octets) : s.isFile p = .ok true := by
  obtain ⟨hfault, hfind⟩ := content_eq_ok.1 h
  rw [isFile, hfault, find_eq_ok.2 hfind]

/-- Whether a file has the octets of a text as its content. -/
def HoldsText (s : Store) (p : Path) (text : String) : Prop :=
  ∃ octets, Utf8.encode text = .ok octets ∧ s.content p = .ok octets

/-! ## Steps that keep directories -/

section Directories

variable (hcurrent : t.current = s.current)
  (hdirectory : ∀ q, s.holds? q = some .directory → t.holds? q = some .directory)

include hdirectory in
theorem follow_of_directories {start : Place} (hs : s.follow start names = .ok q) : t.follow start names = .ok q := by
  induction names generalizing start with
  | nil => exact hs
  | cons name names ih =>
    obtain ⟨hstart, hname, hrest⟩ := follow_cons_eq_ok.1 hs
    exact follow_cons_eq_ok.2 ⟨hdirectory _ hstart, hname, ih hrest⟩

include hcurrent hdirectory in
/-- A path leads where it led as long as all directories are there. -/
theorem place_of_directories (hp : s.place p = .ok q) : t.place p = .ok q := by
  rw [place_eq_ok] at hp ⊢
  rw [hcurrent]
  exact ⟨hp.1, follow_of_directories hdirectory hp.2⟩

end Directories

/-- Whether a place holds a file in one store if and only if it does in another, and then with the same content. -/
def SameFile (s t : Store) (q : Place) : Prop :=
  ∀ octets, t.holds? q = some (.file octets) ↔ s.holds? q = some (.file octets)

/-- Whether every directory is still there, and every file with its content but those at the end of some paths. -/
structure Keeps (paths : List Path) (s t : Store) : Prop where
  current : t.current = s.current
  directory : ∀ q, s.holds? q = some .directory → t.holds? q = some .directory
  file : ∀ q, (∀ p ∈ paths, t.place p ≠ .ok q) → s.SameFile t q

namespace Keeps

variable {paths more : List Path}

theorem refl (s : Store) : Keeps paths s s := ⟨rfl, fun _ h => h, fun _ _ _ => Iff.rfl⟩

theorem mono (h : Keeps paths s t) (hmore : paths ⊆ more) : Keeps more s t :=
  ⟨h.current, h.directory, fun q hq => h.file q fun p hp => hq p (hmore hp)⟩

theorem place (h : Keeps paths s t) (hp : s.place p = .ok q) : t.place p = .ok q :=
  place_of_directories h.current h.directory hp

theorem trans (h : Keeps paths s t) (h' : Keeps more t u) : Keeps (paths ++ more) s u where
  current := h'.current.trans h.current
  directory q hq := h'.directory q (h.directory q hq)
  file q hq octets := by
    rw [List.forall_mem_append] at hq
    exact (h'.file q hq.2 octets).trans (h.file q (fun p hp hpq => hq.1 p hp (h'.place hpq)) octets)

/-- The content of a file elsewhere is read as before. -/
theorem content (h : Keeps paths s t) (hp : s.place p = .ok q) (hq : ∀ p' ∈ paths, t.place p' ≠ .ok q)
    (hs : s.content p = .ok octets) : t.content p = .ok octets := by
  obtain ⟨hfault, q', hp', hfile⟩ := content_eq_ok.1 hs
  cases Except.ok.inj (hp.symm.trans hp')
  exact content_eq_ok.2 ⟨hfault, q, h.place hp, (h.file q hq octets).2 hfile⟩

/-- A file keeps its text if none of the paths ends in its name. -/
theorem holdsText (h : Keeps paths s t) (hp : p.names.getLast? = some p.name ∧ p.name ≠ "..")
    (hpaths : ∀ p' ∈ paths, p'.names.getLast? = some p'.name ∧ p'.name ≠ ".." ∧ p'.name ≠ p.name) {text : String}
    (hs : s.HoldsText p text) : t.HoldsText p text := by
  obtain ⟨octets, hencode, hcontent⟩ := hs
  obtain ⟨-, q, hplace, -⟩ := content_eq_ok.1 hcontent
  refine ⟨octets, hencode, h.content hplace (fun p' hp' hq => ?_) hcontent⟩
  obtain ⟨hlast', hdots', hname⟩ := hpaths p' hp'
  have hlast := getLast?_of_place hq hlast' hdots'
  rw [getLast?_of_place hplace hp.1 hp.2] at hlast
  exact hname (Option.some.inj hlast).symm

end Keeps

theorem ne_nil_of_holds? (h : s.holds? q ≠ some .directory) : q ≠ [] := by
  rintro rfl
  exact h rfl

theorem holds?_put_of_directory (hq : s.holds? q ≠ some .directory) (e : Entry) {q' : Place}
    (hq' : s.holds? q' = some .directory) : (s.put q e).holds? q' = some .directory := by
  rwa [holds?_put_of_ne]
  rintro rfl
  exact hq hq'

/-- What is put at the end of a path, in the place of no directory, changes nothing elsewhere. -/
theorem keeps_put (hp : s.place p = .ok q) (hq : s.holds? q ≠ some .directory) (e : Entry) :
    Keeps [p] s (s.put q e) where
  current := rfl
  directory q' := holds?_put_of_directory hq e
  file q' hq' octets := by
    have hplace : (s.put q e).place p = .ok q :=
      place_of_directories (s := s) rfl (fun _ => holds?_put_of_directory hq e) hp
    rw [holds?_put_of_ne]
    rintro rfl
    exact hq' p List.mem_cons_self hplace

/-- A new directory is in the place of no file. -/
theorem keeps_put_directory (hq : s.holds? q = none) : Keeps [] s (s.put q .directory) := by
  have hother : s.holds? q ≠ some .directory := by simp [hq]
  refine ⟨rfl, fun q' => holds?_put_of_directory hother .directory, fun q' _ octets => ?_⟩
  by_cases hq' : q' = q
  · rw [hq', holds?_put_self (ne_nil_of_holds? hother), hq]
    simp
  · rw [holds?_put_of_ne hq']

/-! ## Making directories -/

theorem keeps_withDirectory (h : s.withDirectory p = .ok t) : Keeps [] s t := by
  rw [withDirectory] at h
  cases hp : s.place p with
  | error refusal => simp [hp, bind, Except.bind] at h
  | ok q =>
    cases hq : s.holds? q with
    | some e => simp [hp, hq, bind, Except.bind, throw, throwThe, MonadExceptOf.throw] at h
    | none =>
      simp only [hp, hq, bind, Except.bind, pure, Except.pure, Except.ok.injEq] at h
      exact h ▸ keeps_put_directory hq

theorem keeps_makeOne (s : Store) (p : Path) : Keeps [] s (s.makeOne p).2 := by
  rw [makeOne]
  cases h : s.withDirectory p with
  | ok t => exact keeps_withDirectory h
  | error refusal => exact Keeps.refl s

theorem keeps_makeWithParents (count : Nat) (p : Path) (s : Store) : Keeps [] s (makeWithParents count p s).2 := by
  induction count generalizing p with
  | zero => exact keeps_makeOne s p
  | succ count ih =>
    rw [makeWithParents]
    split
    · split
      · next t hparents =>
        have hs := ih p.parent
        rw [hparents] at hs
        exact hs.trans (keeps_makeOne t p)
      · exact ih p.parent
    · exact keeps_makeOne s p

/-- Making directories changes no file, even if it fails. -/
theorem keeps_of_makeDirectory {r : Except FileFault Unit} (h : makeDirectory p s = (r, t)) : Keeps [] s t := by
  rw [makeDirectory] at h
  split at h
  · cases h
    exact Keeps.refl s
  · have hkeeps := keeps_makeWithParents p.names.length p s
    rwa [h] at hkeeps

theorem fault?_of_makeDirectory (h : makeDirectory p s = (.ok (), t)) : p.fault? = none := by
  rw [makeDirectory] at h
  split at h
  · cases h
  · assumption

/-! ## Writing -/

theorem written_cases (s : Store) (p : Path) :
    (∃ fault, (p.fault? = some fault ∨ ∃ refusal, fault = .refused refusal p) ∧
      ∀ octets, s.written p octets = .error fault) ∨
    ∃ q, p.fault? = none ∧ s.place p = .ok q ∧ s.holds? q ≠ some .directory ∧
      ∀ octets, s.written p octets = .ok (s.put q (.file octets)) := by
  simp only [written]
  cases p.fault? with
  | some fault => exact .inl ⟨fault, .inl rfl, fun _ => rfl⟩
  | none =>
    cases s.place p with
    | error refusal => exact .inl ⟨_, .inr ⟨refusal, rfl⟩, fun _ => rfl⟩
    | ok q =>
      dsimp only
      split
      · exact .inl ⟨_, .inr ⟨_, rfl⟩, fun _ => rfl⟩
      · next hq => exact .inr ⟨q, rfl, rfl, hq, fun _ => rfl⟩

/-- Writing is refused, or puts a file at the end of the path; that has the octets of the text, or it is empty because
there are none. -/
theorem write_cases (p : Path) (text : String) (s : Store) :
    (∃ fault, write p text s = (.error fault, s) ∧ (p.fault? = some fault ∨ ∃ refusal, fault = .refused refusal p) ∧
      ∀ octets, s.written p octets = .error fault) ∨
    ∃ q octets result, p.fault? = none ∧ s.place p = .ok q ∧ s.holds? q ≠ some .directory ∧
      write p text s = (result, s.put q (.file octets)) ∧
      (Utf8.encode text = .ok octets ∧ result = .ok () ∨
        ∃ u, Utf8.encode text = .error u ∧ octets = [] ∧ result = .error (.unwritable u)) := by
  rw [write]
  obtain ⟨fault, hfault, h⟩ | ⟨q, hp, hplace, hq, h⟩ := written_cases s p
  · simp only [h]
    exact .inl ⟨fault, rfl, hfault, fun _ => rfl⟩
  · simp only [h]
    refine .inr ⟨q, ?_⟩
    cases Utf8.encode text with
    | ok octets => exact ⟨octets, _, hp, hplace, hq, rfl, .inl ⟨rfl, rfl⟩⟩
    | error u => exact ⟨[], _, hp, hplace, hq, rfl, .inr ⟨u, rfl, rfl, rfl⟩⟩

end Deflatten.Store
