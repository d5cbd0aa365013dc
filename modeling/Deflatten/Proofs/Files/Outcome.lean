import Deflatten.Log
import Deflatten.Files.Store
/-!
# Outcomes

`Ends x s P` says of a computation over a store how it ends from there: with a result and a store of which `P` holds,
whatever has been reported before. `Answers x y` says that a computation asks nothing of any files, and that its result
is that of the same computation without them.
-/

namespace Deflatten.Logged

variable {α β ε : Type}

/-- The result of a computation on a store, and the store that it leaves. -/
def outcome (x : Logged (StateM Store) α) (log : List Event) (s : Store) : Except Failure α × Store :=
  let ((result, _), after) := Id.run ((x.run.run log).run s)
  (result, after)

/-- Whether a computation ends with a result and a store of which something holds. -/
def Ends (x : Logged (StateM Store) α) (s : Store) (P : Except Failure α → Store → Prop) : Prop :=
  ∀ log, P (outcome x log s).1 (outcome x log s).2

/-- Whether a computation does no more than report, and has the result of another one that can do no more. -/
def Answers {m : Type → Type} [Monad m] (x : Logged m α) (y : Logged Id α) : Prop :=
  ∀ log log₀, ∃ log', x.run.run log = pure ((Id.run (y.run.run log₀)).1, log')

namespace Answers

variable {m : Type → Type} [Monad m]

theorem pure (a : α) : Answers (Pure.pure a : Logged m α) (Pure.pure a) := fun log _ => ⟨log, rfl⟩

theorem throw (e : Failure) : Answers (MonadExcept.throw e : Logged m α) (MonadExcept.throw e) :=
  fun log _ => ⟨log, rfl⟩

theorem orFail (cause : ε → Failure) (r : Except ε α) :
    Answers (orFail cause r : Logged m α) (Deflatten.orFail cause r) := by
  cases r with
  | ok a => exact pure a
  | error e => exact throw (cause e)

variable [LawfulMonad m] {x : Logged m α} {y : Logged Id α} {f : α → Logged m β} {g : α → Logged Id β}

theorem bind (h : Answers x y) (hf : ∀ a, Answers (f a) (g a)) : Answers (x >>= f) (y >>= g) := by
  intro log log₀
  obtain ⟨log', hx⟩ := h log log₀
  rcases hy : Id.run (y.run.run log₀) with ⟨r, log₁⟩
  rw [hy] at hx
  cases r with
  | error e => exact ⟨log', by simp [ExceptT.run_bind, StateT.run_bind, hx, hy]⟩
  | ok a =>
    obtain ⟨log'', hfa⟩ := hf a log' log₁
    exact ⟨log'', by simp [ExceptT.run_bind, StateT.run_bind, hx, hy, hfa]⟩

theorem report (events : List Event) : Answers (report events : Logged m Unit) (Deflatten.report events) := by
  have hrun {n : Type → Type} [Monad n] [LawfulMonad n] (log : List Event) :
      (Deflatten.report events : Logged n Unit).run.run log = Pure.pure (.ok (), log ++ events) := by
    change StateT.run (Except.ok <$> (modify (· ++ events) : StateT (List Event) n Unit)) log = _
    simp
  exact fun log log₀ => ⟨log ++ events, by rw [hrun, hrun]; rfl⟩

end Answers

namespace Ends

variable {x : Logged (StateM Store) α} {f : α → Logged (StateM Store) β} {s : Store}
  {P Q : Except Failure α → Store → Prop} {R : Except Failure β → Store → Prop}

theorem mono (h : Ends x s P) (hPQ : ∀ r t, P r t → Q r t) : Ends x s Q := fun log => hPQ _ _ (h log)

theorem pure {a : α} (h : P (.ok a) s) : Ends (Pure.pure a) s P := fun _ => h

theorem throw {e : Failure} (h : P (.error e) s) : Ends (MonadExcept.throw e) s P := fun _ => h

/-- What follows starts from the store that was left, unless there was a failure. -/
theorem bind (h : Ends x s fun r t =>
    match r with
    | .ok a => Ends (f a) t R
    | .error e => R (.error e) t) : Ends (x >>= f) s R := by
  intro log
  have hx := h log
  rcases hrun : Id.run ((x.run.run log).run s) with ⟨⟨r, log'⟩, t⟩
  simp only [outcome, hrun] at hx
  simp only [outcome, ExceptT.run_bind, StateT.run_bind, Id.run_bind, hrun]
  cases r with
  | ok a => exact hx log'
  | error e => exact hx

theorem orFail {cause : ε → Failure} {r : Except ε α} (hok : ∀ a, r = .ok a → P (.ok a) s)
    (herror : ∀ e, r = .error e → P (.error (cause e)) s) : Ends (orFail cause r) s P := by
  cases r with
  | ok a => exact pure (hok a rfl)
  | error e => exact throw (herror e rfl)

theorem isFile {p : Path} {P : Except Failure (Except FileFault Bool) → Store → Prop} (h : P (.ok (s.isFile p)) s) :
    Ends (liftM (FileAccess.isFile p : StateM Store (Except FileFault Bool))) s P := fun _ => h

theorem read {p : Path} {P : Except Failure (Except FileFault (List UInt8)) → Store → Prop}
    (h : P (.ok (s.content p)) s) :
    Ends (liftM (FileAccess.read p : StateM Store (Except FileFault (List UInt8)))) s P := fun _ => h

theorem makeDirectory {p : Path} {P : Except Failure (Except FileFault Unit) → Store → Prop}
    (h : P (.ok (s.makeDirectory p).1) (s.makeDirectory p).2) :
    Ends (liftM (FileAccess.makeDirectory p : StateM Store (Except FileFault Unit))) s P := fun _ => h

theorem write {p : Path} {text : String} {P : Except Failure (Except FileFault Unit) → Store → Prop}
    (h : P (.ok (s.write p text).1) (s.write p text).2) :
    Ends (liftM (FileAccess.write p text : StateM Store (Except FileFault Unit))) s P := fun _ => h

/-- A computation that does no more than report leaves the store as it is. -/
theorem of_answers {y : Logged Id α} (h : Answers x y) (log₀ : List Event)
    (hP : P (Id.run (y.run.run log₀)).1 s) : Ends x s P := by
  intro log
  obtain ⟨log', hx⟩ := h log log₀
  simpa only [outcome, hx, StateT.run_pure, Id.run_pure] using hP

end Ends
end Deflatten.Logged
