import Deflatten.Script.Grammar.Module
import Deflatten.Script.Printer.Basic
/-!
# Scripts

`Script.parse` reads text into a tree and `Script.print` writes a tree as text.
-/

namespace Deflatten.Script

/-- The two kinds of source text. -/
inductive SourceType where
  | script
  | module
  deriving DecidableEq, Repr

/-- The source type of a name. -/
def SourceType.ofName? : String → Option SourceType
  | "script" => some .script
  | "module" => some .module
  | _ => none

/-- Why text could not be read, or a tree or a number not be written. -/
inductive Error where
  | unknownSourceType (name : String)
  | fault (fault : Fault)
  | unprintable (failure : Printer.Failure)
  | longInteger
  deriving DecidableEq, Repr

/-- Reads text. The name of its type is checked first. -/
def parse (sourceType : String) (tolerant : Bool) (source : String) : Except Error Tree :=
  match SourceType.ofName? sourceType with
  | none => .error (.unknownSourceType sourceType)
  | some t => (Grammar.readScript ⟨t == .module, tolerant⟩ source).mapError .fault

/-- Writes a tree. -/
def print (t : Tree) : Except Error String := (Printer.print t).mapError .unprintable

/-- Writes statements one by one on one line. -/
def printStatements (ts : List Tree) : Except Error String := (Printer.printStatements ts).mapError .unprintable

end Deflatten.Script
