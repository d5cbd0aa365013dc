import Deflatten.CommandLine.Request
import Deflatten.CommandLine.Usage
import Deflatten.Deflattening
/-!
# The command line

`CommandLine.run` answers a command line: it reads the request and its settings, runs on the input file, and gives an
exit code with what is to be printed. The log goes before an error on the same channel.
-/

namespace Deflatten.CommandLine

/-- The answer to a command line: the exit code, and what is printed as output and as errors. -/
structure Answer where
  exitCode : Nat
  output : String := ""
  errors : String := ""
  deriving DecidableEq, Repr

/-- The least level of events that a request wants to see. -/
def Request.leastLevel (r : Request) : Level :=
  if r.verbose then .debug else if r.quiet then .warning else .info

variable {m : Type → Type} [Monad m] [FileAccess m]

/-- The settings of a request. -/
def settings (r : Request) : Logged m Settings := do
  match r.config with
  | none => return ({} : Settings).override r.overrides
  | some path =>
    let s ← orFail .settings (← (Settings.load path : m (Except SettingsError Settings)))
    return s.override r.overrides

/-- Does what a request asks for. -/
def perform (r : Request) (input : Path) : Logged m Artifacts := do
  unless ← orFail .file (← (FileAccess.isFile input : m (Except FileFault Bool))) do throw (.missingInput input)
  let s ← settings r
  report [.processing input, .orderName s.orderName, .selectorName s.selectorName]
  Deflattening.runFile s input

/-- A failure as it is printed. -/
def failureLine (failure : Failure) : String :=
  match failure.stage? with
  | some stage => "error: " ++ stage ++ ": " ++ failure.message ++ "\n"
  | none => "error: " ++ failure.message ++ "\n"

/-- The log as it is printed. -/
def logText (least : Level) (events : List Event) : String :=
  Usage.lines ((events.filter (·.isShown least)).map Event.line)

/-- The list of the files that were written. -/
def fileList (a : Artifacts) : String :=
  Usage.lines ("generated files:" :: a.described.map fun (path, text) => "  " ++ path.text ++ " - " ++ text)

/-- Answers a request for an input. A failure that is not reported leaves no answer. -/
def answer (r : Request) (input : Path) : m (Except Failure Answer) := do
  let (result, events) ← (perform r input : Logged m Artifacts).run.run []
  let log := logText r.leastLevel events
  match result with
  | .ok a => return .ok { exitCode := 0, output := fileList a, errors := log }
  | .error failure =>
    if failure.isReported then return .ok { exitCode := 1, errors := log ++ failureLine failure }
    else return .error failure

/-- Answers a command line. -/
def run (arguments : List String) : m (Except Failure Answer) := do
  match Request.ofArguments arguments with
  | .error .help => return .ok { exitCode := 0, output := Usage.help }
  | .error (.usage error) => return .ok { exitCode := 2, errors := Usage.refusal error }
  | .ok r =>
    match r.input with
    | none => return .ok { exitCode := 1, errors := Usage.help }
    | some input => answer r (.ofText input)

end Deflatten.CommandLine
