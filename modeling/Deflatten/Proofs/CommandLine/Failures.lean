import Deflatten.CommandLine.Basic
import Deflatten.Proofs.Files.Outcome
import Deflatten.Proofs.Settings.Reader
/-!
# Source types that cannot be read

The parser refuses a source type that is neither that of a script nor that of a module, and nothing else in a run fails
for this reason. `Logged.Yields` follows a computation with files through its steps: with settings that can be read, no
step of a run on a file has this failure (`Deflattening.yields_runFile`).
-/

namespace Deflatten

/-- Whether an error is that of a source type that cannot be read. -/
def Script.Error.isOfSourceType : Script.Error → Bool
  | .unknownSourceType _ => true
  | _ => false

/-- Whether a failure is that of a source type that cannot be read. -/
def Failure.isOfSourceType : Failure → Bool
  | .script e => e.isOfSourceType
  | _ => false

theorem exists_of_mapError_eq_error {α ε ε' : Type} {f : ε → ε'} {x : Except ε α} {e : ε'}
    (h : x.mapError f = .error e) : ∃ cause, f cause = e := by
  cases x with
  | ok a => cases h
  | error cause => exact ⟨cause, Except.error.inj h⟩

/-! ## Collecting -/

namespace BlockCollector

/-- Whether a step of a collection never fails for want of a source type. -/
def Spares {α : Type} (x : Collecting α) : Prop :=
  ∀ s e, (x.run.run s).1 = .error e → e.isOfSourceType = false

theorem spares_pure {α : Type} (a : α) : Spares (pure a) := fun _ _ h => by cases h

theorem spares_modify (f : Progress → Progress) : Spares (modify f) := fun _ _ h => by cases h

theorem Spares.bind {α β : Type} {x : Collecting α} {f : α → Collecting β} (hx : Spares x)
    (hf : ∀ a, Spares (f a)) : Spares (x >>= f) := by
  intro s e h
  rw [ExceptT.run_bind, StateT.run_bind] at h
  rcases hrun : x.run.run s with ⟨r, t⟩
  rw [hrun] at h
  cases r with
  | ok a => exact hf a t e h
  | error e' =>
    cases h
    exact hx s e (by rw [hrun])

theorem spares_forM {α : Type} {f : α → Collecting Unit} (hf : ∀ a, Spares (f a)) (as : List α) :
    Spares (as.forM f) := by
  induction as with
  | nil => exact spares_pure ()
  | cons a as ih => exact (hf a).bind fun _ => ih

theorem spares_keepOrDrop (condition : String) (value : Scalar) (body : List Tree) :
    Spares (keepOrDrop condition value body) := by
  rw [keepOrDrop]
  refine Spares.bind (fun s e h => ?_) fun code => ?_
  · obtain ⟨failure, rfl⟩ := exists_of_mapError_eq_error h
    rfl
  · split
    · exact spares_modify _
    · split
      · exact spares_modify _
      · intro s e h
        cases h
        rfl

theorem spares_takeBranch (name : String) (branch : Tree) : Spares (takeBranch name branch) := by
  rw [takeBranch]
  split
  · exact spares_keepOrDrop _ _ _
  · exact spares_modify _

theorem spares_takeChain (name : String) (head : Tree) : Spares (takeChain name head) := by
  rw [takeChain]
  refine (spares_forM (spares_takeBranch name) _).bind fun _ => ?_
  split
  · split
    · exact spares_keepOrDrop _ _ _
    · exact spares_pure ()
  · exact spares_pure ()

theorem spares_visit (name : String) (v : Visit) : Spares (visit name v) := by
  rw [visit]
  refine Spares.bind (fun s e h => by cases h) fun progress => ?_
  split
  · exact spares_pure ()
  · exact (spares_takeChain name v.node).bind fun _ => spares_modify _

/-- A collection never fails for want of a source type. -/
theorem isOfSourceType_collect {c : BlockCollector} {t : Tree} {e : Script.Error} (h : (collect c t).1 = .error e) :
    e.isOfSourceType = false := by
  rw [collect] at h
  split at h
  · cases h
  · cases h
  · next name _ _ =>
    rcases hrun : (t.conditionals.forM (visit name)).run.run ⟨{}, c.dropped, []⟩ with ⟨r, s⟩
    rw [hrun] at h
    cases r with
    | ok _ => cases h
    | error e' =>
      cases h
      exact spares_forM (spares_visit name) _ _ e (by rw [hrun])

end BlockCollector

/-! ## Computations with files -/

namespace Logged

variable {α β ε : Type}

/-- Whether a computation never fails for want of a source type, and gives only results of which something holds. -/
def Yields (x : Logged (StateM Store) α) (P : α → Prop) : Prop :=
  ∀ s, Ends x s fun r _ =>
    match r with
    | .ok a => P a
    | .error f => f.isOfSourceType = false

namespace Yields

variable {x : Logged (StateM Store) α} {f : α → Logged (StateM Store) β} {P : α → Prop} {Q : β → Prop}

theorem pure {a : α} (h : P a) : Yields (Pure.pure a) P := fun _ => Ends.pure h

theorem throw {e : Failure} (h : e.isOfSourceType = false) : Yields (MonadExcept.throw e) P := fun _ => Ends.throw h

theorem bind (hx : Yields x P) (hf : ∀ a, P a → Yields (f a) Q) : Yields (x >>= f) Q := by
  intro s
  refine Ends.bind ((hx s).mono fun r t hr => ?_)
  cases r with
  | ok a => exact hf a hr t
  | error e => exact hr

theorem orFail {cause : ε → Failure} {r : Except ε α} (hok : ∀ a, r = .ok a → P a)
    (herror : ∀ e, r = .error e → (cause e).isOfSourceType = false) : Yields (orFail cause r) P :=
  fun _ => Ends.orFail hok herror

theorem report (events : List Event) : Yields (report events) fun _ => True :=
  fun _ => Ends.of_answers (Answers.report events) [] trivial

theorem lift (y : StateM Store α) : Yields (liftM y) fun _ => True := fun _ _ => trivial

end Yields
end Logged

/-! ## Runs -/

namespace Deflattening

open Logged

variable {α : Type} {settings : Settings}

theorem yields_parse (h : settings.isReadable) (source : String) :
    Yields (parse settings source) fun _ => True := by
  refine Yields.orFail (fun _ _ => trivial) fun e he => ?_
  obtain ⟨sourceType, hname⟩ := Option.isSome_iff_exists.mp h
  rw [Script.parse, hname] at he
  obtain ⟨fault, rfl⟩ := exists_of_mapError_eq_error he
  rfl

theorem yields_normalize (settings : Settings) (t : Tree) : Yields (normalize settings t) fun _ => True := by
  have hprint : Yields (do
      report (Event.ofNormalized (Normalized.ofTree t settings.lowerRanges))
      return (← orFail .script (Script.print (Normalized.ofTree t settings.lowerRanges).tree),
        (Normalized.ofTree t settings.lowerRanges).metrics)) fun _ => True := by
    refine (Yields.report _).bind fun _ _ => Yields.bind (P := fun _ => True) ?_ fun _ _ => Yields.pure trivial
    refine Yields.orFail (fun _ _ => trivial) fun e he => ?_
    obtain ⟨failure, rfl⟩ := exists_of_mapError_eq_error he
    rfl
  rw [normalize]
  split
  · exact Yields.bind (P := fun _ => True) (Yields.throw rfl) fun _ _ => hprint
  · exact hprint

theorem yields_collect (settings : Settings) (t : Tree) : Yields (collect settings t) fun _ => True := by
  rw [collect]
  refine Yields.bind (P := fun _ => True) (Yields.orFail (fun _ _ => trivial) fun e he => ?_) fun table _ => ?_
  · exact BlockCollector.isOfSourceType_collect he
  · split <;> exact (Yields.report _).bind fun _ _ => Yields.pure trivial

theorem yields_findOrder (settings : Settings) (t : Tree) : Yields (findOrder settings t) fun _ => True := by
  rw [findOrder]
  cases OrderArray.find? settings.orderName t with
  | none => exact Yields.throw rfl
  | some order => exact (Yields.report _).bind fun _ _ => Yields.pure trivial

theorem yields_replayOrder (settings : Settings) (table : BlockTable) (order : OrderArray) :
    Yields (replayOrder settings table order) fun _ => True := by
  refine (Yields.report _).bind fun _ _ => ?_
  split
  · exact Yields.pure trivial
  · exact (Yields.report _).bind fun _ _ => Yields.pure trivial

theorem yields_run (h : settings.isReadable) (source : String) : Yields (run settings source) fun _ => True :=
  (yields_parse h source).bind fun tree _ => (yields_normalize settings tree).bind fun _ _ =>
    (yields_parse h _).bind fun again _ => (yields_collect settings again).bind fun table _ =>
    (yields_findOrder settings tree).bind fun order _ => (yields_replayOrder settings table order).bind fun _ _ =>
    Yields.pure trivial

theorem yields_file (r : Except FileFault α) : Yields (orFail .file r) fun _ => True :=
  Yields.orFail (fun _ _ => trivial) fun _ _ => rfl

theorem yields_readInput (input : Path) : Yields (readInput input) fun _ => True := by
  have hread : Yields (do orFail .file (← (FileAccess.read input : StateM Store (Except FileFault (List UInt8)))))
      fun _ => True := (Yields.lift _).bind fun r _ => yields_file r
  refine (Yields.lift _).bind fun r _ => (yields_file r).bind fun found _ => ?_
  split
  · exact hread
  · exact Yields.bind (P := fun _ => True) (Yields.throw rfl) fun _ _ => hread

theorem yields_decode (octets : List UInt8) : Yields (decode octets) fun _ => True :=
  Yields.bind (P := fun _ => True) (Yields.orFail (fun _ _ => trivial) fun _ _ => rfl) fun _ _ => Yields.pure trivial

theorem yields_writeFile (path : Path) (text? : Option String) : Yields (writeFile path text?) fun _ => True := by
  cases text? with
  | none => exact Yields.throw rfl
  | some text => exact (Yields.lift _).bind fun r _ => yields_file r

theorem yields_write (d : Deflattening) (a : Artifacts) : Yields (d.write a) fun _ => True := by
  refine (Yields.lift _).bind fun r _ => (yields_file r).bind fun _ _ => ?_
  generalize d.contents a = files
  induction files with
  | nil => exact Yields.pure trivial
  | cons file files ih => exact (yields_writeFile file.1 file.2).bind fun _ _ => ih

/-- With settings that can be read, a run on a file never fails for want of a source type. -/
theorem yields_runFile (h : settings.isReadable) (input : Path) : Yields (runFile settings input) fun _ => True :=
  (yields_readInput input).bind fun octets _ => (yields_decode octets).bind fun source _ =>
    (yields_run h source).bind fun d _ => (yields_write d _).bind fun _ _ => Yields.pure trivial

end Deflattening
end Deflatten
