import Deflatten.Settings.Reader
/-!
# Failures

All the ways in which a run can end without a result.
-/

namespace Deflatten

/-- Why a run ended without a result. -/
inductive Failure where
  | script (error : Script.Error)
  | undecodable (fault : Utf8.Fault)
  | missingInput (path : Path)
  | settings (error : SettingsError)
  | file (fault : FileFault)
  deriving DecidableEq, Repr

namespace Failure

/-- A failure as it is shown. -/
def message : Failure → String
  | .script (.unknownSourceType name) => "unsupported source type: " ++ Quoted.quoted name
  | .script (.fault fault) => fault.message
  | .script (.unprintable failure) => failure.message
  | .script .longInteger => Number.writingFault
  | .undecodable fault => fault.message
  | .missingInput path => "missing input file: " ++ path.text
  | .settings error => error.message
  | .file fault => fault.message

/-- Whether a failure is one that the command line reports; any other ends the program. -/
def isReported : Failure → Bool
  | .script (.unknownSourceType _) | .script .longInteger => false
  | .file fault => fault.isRefusal
  | _ => true

/-- The stage at which text could not be read, for the failures that are about text. -/
def stage? : Failure → Option String
  | .script (.fault _) => some "parse"
  | .undecodable _ => some "read"
  | _ => none

end Failure
end Deflatten
