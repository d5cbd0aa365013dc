import Deflatten.Deflattening
import Deflatten.Proofs.Files.Artifacts
import Deflatten.Proofs.Files.Outcome
import Deflatten.Proofs.Files.Store
import Deflatten.Proofs.Json.Artifacts
/-!
# Runs on files

A run on a script asks nothing of any files (`Deflattening.answers_run`), so that a run on a file reads the input, and
then makes the directory and writes. Every artifact is written at a place of its own, which is not that of the input
(`Deflattening.ends_writeFiles`, `Deflattening.RanFile.content_input`). So a run that fails has changed no file, unless
it fails at an artifact that cannot be written; then the artifacts before that one are written
(`Deflattening.runFile_frame`, `Deflattening.runFile_fails_after_writing`).
-/

namespace Deflatten

open Logged

/-- Whether a failure can come of writing: a text that is not there for want of digits or that has no octets, or a
refusal of the file system. -/
def Failure.isOfWriting : Failure → Bool
  | .script .longInteger | .file (.refused _ _) | .file (.unwritable _) => true
  | _ => false

namespace Deflattening

section Script

variable {m : Type → Type} [Monad m] [LawfulMonad m]

theorem answers_normalize (settings : Settings) (t : Tree) :
    Answers (normalize settings t : Logged m _) (normalize settings t) := by
  rw [normalize, normalize]
  split
  · refine (Answers.throw _).bind fun _ => (Answers.report _).bind fun _ => ?_
    exact (Answers.orFail _ _).bind fun _ => Answers.pure _
  · exact (Answers.report _).bind fun _ => (Answers.orFail _ _).bind fun _ => Answers.pure _

theorem answers_collect (settings : Settings) (t : Tree) :
    Answers (collect settings t : Logged m _) (collect settings t) := by
  rw [collect, collect]
  refine (Answers.orFail _ _).bind fun table => ?_
  split <;> exact (Answers.report _).bind fun _ => Answers.pure table

theorem answers_findOrder (settings : Settings) (t : Tree) :
    Answers (findOrder settings t : Logged m _) (findOrder settings t) := by
  rw [findOrder, findOrder]
  cases OrderArray.find? settings.orderName t with
  | none => exact Answers.throw _
  | some order => exact (Answers.report _).bind fun _ => Answers.pure order

theorem answers_replayOrder (settings : Settings) (table : BlockTable) (order : OrderArray) :
    Answers (replayOrder settings table order : Logged m _) (replayOrder settings table order) := by
  refine (Answers.report _).bind fun _ => ?_
  split
  · exact Answers.pure _
  · exact (Answers.report _).bind fun _ => Answers.pure _

/-- A run on a script asks nothing of any files. -/
theorem answers_run (settings : Settings) (source : String) :
    Answers (run settings source : Logged m _) (run settings source) :=
  (Answers.orFail _ _).bind fun tree => (answers_normalize settings tree).bind fun _ =>
    (Answers.orFail _ _).bind fun again => (answers_collect settings again).bind fun table =>
    (answers_findOrder settings tree).bind fun order => (answers_replayOrder settings table order).bind fun _ =>
    Answers.pure _

end Script

/-! ## Writing the artifacts -/

/-- Why a file is not written, and the paths to what has changed nevertheless. -/
inductive NotWritten (path : Path) (text? : Option String) (t : Store) : Failure → List Path → Prop
  /-- There is no text for want of digits. -/
  | longInteger (h : text? = none) : NotWritten path text? t (.script .longInteger) []
  /-- The file system refuses the path. -/
  | refused {refusal : FileRefusal} (h : ∀ octets, t.written path octets = .error (.refused refusal path)) :
      NotWritten path text? t (.file (.refused refusal path)) []
  /-- The text has no octets, and the file is left empty. -/
  | emptied {text : String} {u : Utf8.Unwritable} (htext : text? = some text) (hencode : Utf8.encode text = .error u)
      (hempty : t.content path = .ok []) : NotWritten path text? t (.file (.unwritable u)) [path]

/-- How the writing of some files ends: all of them hold their texts, or those before one that is not written do. No
other file has changed. -/
inductive Wrote (files : List (Path × Option String)) (s : Store) : Except Failure Unit → Store → Prop
  | all {t : Store} (hholds : ∀ x ∈ files, ∃ text ∈ x.2, t.HoldsText x.1 text)
      (hkeeps : s.Keeps (files.map Prod.fst) t) : Wrote files s (.ok ()) t
  | stopped (before : List (Path × Option String)) (x : Path × Option String) (after : List (Path × Option String))
      {f : Failure} {changed : List Path} {t : Store} (hfiles : files = before ++ x :: after)
      (hholds : ∀ y ∈ before, ∃ text ∈ y.2, t.HoldsText y.1 text) (hnot : NotWritten x.1 x.2 t f changed)
      (hkeeps : s.Keeps (before.map Prod.fst ++ changed) t) : Wrote files s (.error f) t

section Writing

variable {s t : Store} {path : Path} {text? : Option String} {f : Failure} {changed : List Path}
  {files : List (Path × Option String)} {r : Except Failure Unit}

theorem NotWritten.subset (h : NotWritten path text? t f changed) : changed ⊆ [path] := by
  cases h with
  | longInteger _ => exact List.nil_subset _
  | refused _ => exact List.nil_subset _
  | emptied _ _ _ => exact List.Subset.refl _

theorem NotWritten.isOfWriting (h : NotWritten path text? t f changed) : f.isOfWriting := by
  cases h <;> rfl

theorem Wrote.keeps (h : Wrote files s r t) : s.Keeps (files.map Prod.fst) t := by
  cases h with
  | all _ hkeeps => exact hkeeps
  | stopped before x after hfiles _ hnot hkeeps =>
    rw [hfiles, List.map_append, List.map_cons]
    have hx : [x.1] ⊆ before.map Prod.fst ++ x.1 :: after.map Prod.fst := by simp
    exact hkeeps.mono (List.append_subset.2 ⟨List.subset_append_left _ _, List.Subset.trans hnot.subset hx⟩)

theorem ends_writeFile (hfault : path.fault? = none) (text? : Option String) (s : Store) :
    Ends (writeFile path text?) s fun r t =>
      match r with
      | .ok _ => s.Keeps [path] t ∧ ∃ text ∈ text?, t.HoldsText path text
      | .error f => ∃ changed, s.Keeps changed t ∧ NotWritten path text? t f changed := by
  cases text? with
  | none => exact Ends.throw ⟨[], .refl s, .longInteger rfl⟩
  | some text =>
    refine Ends.bind (Ends.write ?_)
    obtain ⟨fault, hwrite, hfault', hrefused⟩ | ⟨q, octets, result, -, hplace, hq, hwrite, hresult⟩ :=
      Store.write_cases path text s
    · rw [hwrite]
      obtain hfault' | ⟨refusal, rfl⟩ := hfault'
      · cases hfault.symm.trans hfault'
      · exact Ends.throw ⟨[], .refl s, .refused hrefused⟩
    · have hkeeps := Store.keeps_put hplace hq (.file octets)
      have hfile := Store.holds?_put_self (Store.ne_nil_of_holds? hq) s (.file octets)
      have hcontent := Store.content_eq_ok.2 ⟨hfault, q, hkeeps.place hplace, hfile⟩
      rw [hwrite]
      obtain ⟨hencode, rfl⟩ | ⟨u, hencode, rfl, rfl⟩ := hresult
      · exact Ends.pure ⟨hkeeps, text, rfl, octets, hencode, hcontent⟩
      · exact Ends.throw ⟨[path], hkeeps, .emptied rfl hencode hcontent⟩

/-- Files that differ in their names are written one after the other, up to the first that is not written. -/
theorem ends_writeFiles (hnames : ∀ x ∈ files, x.1.names.getLast? = some x.1.name ∧ x.1.name ≠ "..")
    (hdistinct : (files.map fun x => x.1.name).Nodup) (hfault : ∀ x ∈ files, x.1.fault? = none) (s : Store) :
    Ends (files.forM fun (path, text?) => writeFile path text?) s (Wrote files s) := by
  induction files generalizing s with
  | nil => exact Ends.pure (.all nofun (.refl s))
  | cons x files ih =>
    obtain ⟨hx, hnames⟩ := List.forall_mem_cons.1 hnames
    obtain ⟨hhere, hdistinct⟩ := List.nodup_cons.1 hdistinct
    obtain ⟨hfaultx, hfault⟩ := List.forall_mem_cons.1 hfault
    refine Ends.bind ((ends_writeFile hfaultx x.2 s).mono fun r u hu => ?_)
    cases r with
    | error f =>
      obtain ⟨changed, hkeeps, hnot⟩ := hu
      exact .stopped [] x files rfl nofun hnot hkeeps
    | ok _ =>
      obtain ⟨hkeepsx, text, htext, hholdsx⟩ := hu
      refine (ih hnames hdistinct hfault u).mono fun r t ht => ?_
      -- The later files have other names, so that the first one keeps its text.
      have hfirst : ∃ text ∈ x.2, t.HoldsText x.1 text := by
        refine ⟨text, htext, ht.keeps.holdsText hx (List.forall_mem_map.2 fun y hy => ?_) hholdsx⟩
        exact ⟨(hnames y hy).1, (hnames y hy).2, fun hname => hhere (List.mem_map.2 ⟨y, hy, hname⟩)⟩
      cases ht with
      | all hholds hkeeps => exact .all (List.forall_mem_cons.2 ⟨hfirst, hholds⟩) (hkeepsx.trans hkeeps)
      | stopped before y after hfiles hholds hnot hkeeps =>
        refine .stopped (x :: before) y after ?_ (List.forall_mem_cons.2 ⟨hfirst, hholds⟩) hnot (hkeepsx.trans hkeeps)
        rw [hfiles, List.cons_append]

end Writing

/-! ## Running on a file -/

variable {s : Store}

theorem ends_run {settings : Settings} {source : String} {P : Except Failure Deflattening → Store → Prop}
    (h : P (ofSource settings source) s) : Ends (run settings source) s P :=
  Ends.of_answers (answers_run settings source) [] h

/-- Reading the input gives its content if it has any. -/
theorem ends_readInput (input : Path) (s : Store) :
    Ends (readInput input) s fun r t => t = s ∧ ∀ octets, r = .ok octets ↔ s.content input = .ok octets := by
  have hnone (h : s.isFile input ≠ .ok true) (f : Failure) (octets : List UInt8) :
      .error f = Except.ok octets ↔ s.content input = .ok octets :=
    ⟨nofun, fun hcontent => absurd (Store.isFile_of_content hcontent) h⟩
  refine Ends.bind (Ends.isFile (Ends.bind (Ends.orFail (fun found hfound => ?_) fun fault hfault => ?_)))
  · cases found with
    | false => exact Ends.bind (Ends.throw ⟨rfl, hnone (by simp [hfound]) _⟩)
    | true =>
      refine Ends.bind (Ends.read (Ends.orFail (fun octets h => ⟨rfl, fun _ => ?_⟩) fun fault h => ⟨rfl, fun _ => ?_⟩))
      · rw [h, Except.ok.injEq, Except.ok.injEq]
      · rw [h]
        simp
  · exact ⟨rfl, hnone (by simp [hfault]) _⟩

/-- Whether a result is that of a run on the script in a file. -/
def IsOfInput (settings : Settings) (input : Path) (s : Store) (d : Deflattening) : Prop :=
  ∃ octets chars, s.content input = .ok octets ∧ Utf8.decode octets = .ok chars ∧
    ofSource settings (String.ofList (Utf8.plainLines chars)) = .ok d

/-- How a run on a file ends: it fails for want of a result and leaves the store as it is, or the directory cannot be
made, or the artifacts are written. -/
inductive RanFile (settings : Settings) (input : Path) (s : Store) : Except Failure Artifacts → Store → Prop
  | failed (f : Failure) (hnone : ∀ d, ¬IsOfInput settings input s d) : RanFile settings input s (.error f) s
  | refused (fault : FileFault) (t : Store) (hdirectory :
      s.makeDirectory (Artifacts.ofInput input settings.outputDirectory).directory = (.error fault, t)) :
      RanFile settings input s (.error (.file fault)) t
  | wrote (d : Deflattening) (u : Store) (r : Except Failure Unit) (t : Store) (hd : IsOfInput settings input s d)
      (hdirectory :
        s.makeDirectory (Artifacts.ofInput input settings.outputDirectory).directory = (.ok (), u))
      (hwrote : Wrote (d.contents (Artifacts.ofInput input settings.outputDirectory)) u r t) :
      RanFile settings input s (r.map fun _ => Artifacts.ofInput input settings.outputDirectory) t

theorem contents_map_fst (d : Deflattening) (a : Artifacts) : (d.contents a).map Prod.fst = a.paths := rfl

theorem mem_paths_of_mem_contents {d : Deflattening} {a : Artifacts} {x : Path × Option String}
    (h : x ∈ d.contents a) : x.1 ∈ a.paths :=
  contents_map_fst d a ▸ List.mem_map_of_mem h

/-- The artifacts hold what they are to hold as soon as each holds its text. -/
theorem holdsText_of_contents {d : Deflattening} {a : Artifacts} {t : Store}
    (h : ∀ x ∈ d.contents a, ∃ text ∈ x.2, t.HoldsText x.1 text) :
    t.HoldsText a.processed d.normalized ∧ t.HoldsText a.conditionMapping (d.table.jsonText false) ∧
      t.HoldsText a.simpleMapping (d.table.jsonText true) ∧ t.HoldsText a.controlFlow d.order.jsonText ∧
      t.HoldsText a.reordered d.replay.render := by
  simp only [contents, List.forall_mem_cons, List.not_mem_nil, false_implies, implies_true, and_true, Option.mem_def,
    Option.some.injEq, exists_eq_left', BlockTable.jsonText?_eq_some_iff, OrderArray.jsonText?_eq_some_iff] at h
  obtain ⟨hprocessed, ⟨_, ⟨-, rfl⟩, hcondition⟩, ⟨_, ⟨-, rfl⟩, hsimple⟩, ⟨_, ⟨-, rfl⟩, horder⟩, hreordered⟩ := h
  exact ⟨hprocessed, hcondition, hsimple, horder, hreordered⟩

/-- The octets of the input are decoded and run in one way only. -/
theorem IsOfInput.of_content {settings : Settings} {input : Path} {d : Deflattening}
    (hd : IsOfInput settings input s d) {octets : List UInt8} (hcontent : s.content input = .ok octets) :
    ∃ chars, Utf8.decode octets = .ok chars ∧
      ofSource settings (String.ofList (Utf8.plainLines chars)) = .ok d := by
  obtain ⟨octets', chars, hcontent', hd⟩ := hd
  cases hcontent.symm.trans hcontent'
  exact ⟨chars, hd⟩

theorem ends_write {settings : Settings} {input : Path} {d : Deflattening} (hd : IsOfInput settings input s d) :
    Ends (do
      d.write (Artifacts.ofInput input settings.outputDirectory)
      return Artifacts.ofInput input settings.outputDirectory) s (RanFile settings input s) := by
  refine Ends.bind (Ends.bind (Ends.makeDirectory (Ends.bind ?_)))
  rcases hmake : Store.makeDirectory (Artifacts.ofInput input settings.outputDirectory).directory s with ⟨r, u⟩
  cases r with
  | error fault => exact Ends.throw (.refused fault u hmake)
  | ok _ =>
    refine Ends.pure ((ends_writeFiles ?_ ?_ ?_ u).mono fun r t hwrote => ?_)
    · exact fun x hx => Artifacts.getLast?_names (mem_paths_of_mem_contents hx)
    · exact Artifacts.nodup_names input settings.outputDirectory
    · obtain ⟨octets, _, hcontent, -⟩ := hd
      have hinput := (Store.content_eq_ok.1 hcontent).1
      have hdirectory := Store.fault?_of_makeDirectory hmake
      exact fun x hx => Artifacts.fault?_eq_none hinput hdirectory (mem_paths_of_mem_contents hx)
    · have hran := RanFile.wrote d u r t hd hmake hwrote
      cases r with
      | error f => exact hran
      | ok _ => exact Ends.pure hran

theorem ends_runFile (settings : Settings) (input : Path) (s : Store) :
    Ends (runFile settings input) s (RanFile settings input s) := by
  refine Ends.bind ((ends_readInput input s).mono ?_)
  rintro r s ⟨rfl, hread⟩
  cases r with
  | error f => exact .failed f fun d ⟨octets, _, hcontent, _⟩ => nomatch (hread octets).2 hcontent
  | ok octets =>
    have hcontent := (hread octets).1 rfl
    refine Ends.bind (Ends.bind (Ends.orFail (fun chars hdecode => ?_) fun fault hdecode => .failed _ fun d hd => ?_))
    · refine Ends.pure (Ends.bind (ends_run ?_))
      cases hrun : ofSource settings (String.ofList (Utf8.plainLines chars)) with
      | error f =>
        refine .failed f fun d hd => ?_
        obtain ⟨chars', hchars, hd⟩ := hd.of_content hcontent
        cases hdecode.symm.trans hchars
        cases hrun.symm.trans hd
      | ok d => exact ends_write ⟨octets, chars, hcontent, hdecode, hrun⟩
    · obtain ⟨chars, hchars, -⟩ := hd.of_content hcontent
      cases hdecode.symm.trans hchars

/-- There is one result at most for the script in a file. -/
theorem IsOfInput.unique {settings : Settings} {input : Path} {d d' : Deflattening}
    (hd : IsOfInput settings input s d) (hd' : IsOfInput settings input s d') : d = d' := by
  obtain ⟨octets, chars, hcontent, hdecode, hrun⟩ := hd
  obtain ⟨chars', hdecode', hrun'⟩ := hd'.of_content hcontent
  cases hdecode.symm.trans hdecode'
  exact Except.ok.inj (hrun.symm.trans hrun')

namespace RanFile

variable {settings : Settings} {input : Path} {result : Except Failure Artifacts} {t : Store}

/-- Nothing but artifacts is written. -/
theorem keeps (h : RanFile settings input s result t) :
    s.Keeps (Artifacts.ofInput input settings.outputDirectory).paths t := by
  cases h with
  | failed f hnone => exact .refl s
  | refused fault t hdirectory => exact (Store.keeps_of_makeDirectory hdirectory).mono (List.nil_subset _)
  | wrote d u r t hd hdirectory hwrote => exact (Store.keeps_of_makeDirectory hdirectory).trans hwrote.keeps

/-- A run fails and changes no file if there is no result or no directory, or if it fails for another reason than
writing. -/
theorem keeps_of_failed (h : RanFile settings input s result t)
    (hfailed : (∀ d, ¬IsOfInput settings input s d) ∨
      (∃ fault, (s.makeDirectory (Artifacts.ofInput input settings.outputDirectory).directory).1 = .error fault) ∨
      ∃ f, result = .error f ∧ f.isOfWriting = false) :
    (∃ f, result = .error f) ∧ s.Keeps [] t := by
  cases h with
  | failed f hnone => exact ⟨⟨f, rfl⟩, .refl s⟩
  | refused fault t hdirectory => exact ⟨⟨_, rfl⟩, Store.keeps_of_makeDirectory hdirectory⟩
  | wrote d u r t hd hdirectory hwrote =>
    obtain hnone | ⟨fault, hfault⟩ | ⟨f, hr, hf⟩ := hfailed
    · exact absurd hd (hnone d)
    · rw [hdirectory] at hfault
      contradiction
    · cases hwrote with
      | all _ _ => contradiction
      | stopped _ _ _ _ _ hnot _ =>
        cases hr
        rw [hnot.isOfWriting] at hf
        contradiction

/-- A run for which there is a result and a directory writes all artifacts, or those before one that is not written. -/
theorem ok_or_stopped (h : RanFile settings input s result t) {d : Deflattening} (hd : IsOfInput settings input s d)
    (hdirectory : (s.makeDirectory (Artifacts.ofInput input settings.outputDirectory).directory).1 = .ok ()) :
    result = .ok (Artifacts.ofInput input settings.outputDirectory) ∨
      ∃ f before x after changed, result = .error f ∧
        d.contents (Artifacts.ofInput input settings.outputDirectory) = before ++ x :: after ∧
        (∀ y ∈ before, ∃ text ∈ y.2, t.HoldsText y.1 text) ∧ NotWritten x.1 x.2 t f changed ∧
        s.Keeps (before.map Prod.fst ++ changed) t := by
  cases h with
  | failed f hnone => exact absurd hd (hnone d)
  | refused fault t hrefused =>
    rw [hrefused] at hdirectory
    contradiction
  | wrote d' u r t hd' hmade hwrote =>
    cases hd.unique hd'
    cases hwrote with
    | all _ _ => exact .inl rfl
    | stopped before x after hfiles hholds hnot hkeeps =>
      exact .inr ⟨_, before, x, after, _, rfl, hfiles, hholds, hnot, (Store.keeps_of_makeDirectory hmade).trans hkeeps⟩

/-- The artifacts of a run that succeeds hold what the run on the script has given. -/
theorem holds_of_ok (h : RanFile settings input s result t) {a : Artifacts} (hresult : result = .ok a) :
    a = Artifacts.ofInput input settings.outputDirectory ∧
      ∃ d, IsOfInput settings input s d ∧ ∀ x ∈ d.contents a, ∃ text ∈ x.2, t.HoldsText x.1 text := by
  cases h with
  | failed f hnone => contradiction
  | refused fault t hdirectory => contradiction
  | wrote d u r t hd hdirectory hwrote =>
    cases hwrote with
    | stopped _ _ _ _ _ _ _ => contradiction
    | all hholds _ =>
      cases hresult
      exact ⟨rfl, d, hd, hholds⟩

/-- No artifact is written at the place of the input. -/
theorem content_input (h : RanFile settings input s result t) (hs : s.IsTree) {octets : List UInt8}
    (hinput : s.content input = .ok octets) : t.content input = .ok octets := by
  obtain ⟨-, q, hplace, hfile⟩ := Store.content_eq_ok.1 hinput
  refine h.keeps.content hplace (fun p hp hpq => ?_) hinput
  have hnames := Artifacts.getLast?_names hp
  have hlast := Store.getLast?_of_place hpq hnames.1 hnames.2
  rw [hs.getLast?_of_place hplace hfile] at hlast
  exact Artifacts.name_ne hp (Option.some.inj hlast).symm

end RanFile

/-- Two artifacts never lead to one place. -/
theorem eq_of_place {input : Path} {directory : Option Path} {t : Store} {p p' : Path} {q : Place}
    (hp : p ∈ (Artifacts.ofInput input directory).paths) (hp' : p' ∈ (Artifacts.ofInput input directory).paths)
    (hq : t.place p = .ok q) (hq' : t.place p' = .ok q) : p = p' := by
  have hnames := Artifacts.getLast?_names hp
  have hnames' := Artifacts.getLast?_names hp'
  have hlast := Store.getLast?_of_place hq hnames.1 hnames.2
  rw [Store.getLast?_of_place hq' hnames'.1 hnames'.2] at hlast
  exact List.inj_on_of_nodup_map (Artifacts.nodup_names input directory) hp hp' (Option.some.inj hlast).symm

/-- A directory with one script, which has one block. -/
def oneScript : Store where
  current := ["home"]
  entries := [(["home"], .directory),
    (["home", "a.js"], .file "F = [0]; if (C === 0) { a(); }".toUTF8.toList)]

/-- The settings for that script, with a directory that is still to be made. -/
def settingsOfOneScript : Settings where
  orderName := some "F"
  selectorName := some "C"
  outputDirectory := some (Path.ofText "out/blocks")

/-- The settings for that script with a surrogate in what is said of every position. -/
def settingsWithSurrogate : Settings := { settingsOfOneScript with annotationPrefix := Surrogate.text [0xd800] }

/-- The directory with that script and a directory in the place of the last artifact. -/
def blockedScript : Store where
  current := ["home"]
  entries := oneScript.entries ++ [(["home", "out"], .directory), (["home", "out", "blocks"], .directory),
    (["home", "out", "blocks", "a_reordered.js"], .directory)]

end Deflattening
end Deflatten
