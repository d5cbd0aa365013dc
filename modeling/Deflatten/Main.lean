import Deflatten.CommandLine.Basic
/-!
# The program

The command line over the file system of the machine.
-/

namespace Deflatten.Machine

/-- How the machine's refusal is told. -/
def refusalOf : IO.Error → FileRefusal
  | .alreadyExists .. => .exists
  | .inappropriateType .. => .isDirectory
  | .resourceVanished .. => .notDirectory
  | .invalidArgument .. => .nameTooLong
  | _ => .notFound

/-- A step on the machine's files. -/
def attempt {α : Type} (path : Path) (step : IO α) : IO (Except FileFault α) := do
  match path.fault? with
  | some fault => return .error fault
  | none =>
    match ← step.toBaseIO with
    | .ok a => return .ok a
    | .error e => return .error (.refused (refusalOf e) path)

instance : FileAccess IO where
  isFile path := do
    match ← attempt path (IO.FS.readBinFile path.text) with
    | .ok _ => return .ok true
    | .error (.refused .nameTooLong path) => return .error (.refused .nameTooLong path)
    | .error _ => return .ok false
  read path := attempt path (return (← IO.FS.readBinFile path.text).toList)
  makeDirectory path := attempt path (IO.FS.createDirAll path.text)
  write path text := do
    match Utf8.encode text with
    | .ok octets => attempt path (IO.FS.writeBinFile path.text ⟨octets.toArray⟩)
    | .error u => return .error (.unwritable u)

end Deflatten.Machine

/-- Answers the command line. -/
def main (arguments : List String) : IO UInt32 := do
  match ← (Deflatten.CommandLine.run arguments : IO (Except Deflatten.Failure Deflatten.CommandLine.Answer)) with
  | .ok answer =>
    IO.print answer.output
    IO.eprint answer.errors
    return answer.exitCode.toUInt32
  | .error failure =>
    IO.eprint (Deflatten.CommandLine.failureLine failure)
    return 1
