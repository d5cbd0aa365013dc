import Deflatten.Script.Pattern.Basic
/-!
# Flags inside a pattern

A pattern may turn flags on for the whole of it, as `(?im)` at its start, or on and off for a group, as `(?i-s:…)`.
-/

namespace Deflatten.Script.Pattern

/-- Whether a code is that of a flag. -/
def isFlag (c : Nat) : Bool := isAmong "iLmsxatu" c

/-- The flag that makes blanks and comments in a pattern count for nothing. -/
def spacedOut : Nat := code 'x'

/-- The flag under which nothing may be repeated. -/
def withoutRepetition : Nat := code 't'

/-- Flags inside a pattern: those turned on, those turned off, and whether they are for the whole pattern. -/
structure InlineFlags where
  on : List Nat
  off : List Nat
  forAll : Bool

/-- The flags that pieces begin with, and what follows. -/
def flagLetters : List Piece → List Nat × List Piece
  | .plain c :: ps =>
    if isFlag c then
      let (cs, rest) := flagLetters ps
      (c :: cs, rest)
    else ([], .plain c :: ps)
  | ps => ([], ps)

/-- Whether flags may be turned on together: `L` never, and not both of `a` and `u`. -/
def areCompatible (flags : List Nat) : Bool :=
  !flags.contains (code 'L') && !(flags.contains (code 'a') && flags.contains (code 'u'))

/-- Reads the flags that are turned off for a group, after the hyphen. -/
def offFlags (on : List Nat) (ps : List Piece) : Option (InlineFlags × List Piece) :=
  let (off, rest) := flagLetters ps
  let isWrong := off.isEmpty || off.any (isAmong "aLut") || off.any on.contains
  if rest.head? = some (.plain (code ':')) && !isWrong then some (⟨on, off, false⟩, rest.drop 1) else none

/-- Reads flags after the question mark. -/
def inlineFlags (ps : List Piece) : Option (InlineFlags × List Piece) :=
  let (on, rest) := flagLetters ps
  match rest with
  | .plain c :: rest =>
    if !areCompatible on then none
    else if c = code ')' && !on.isEmpty then some (⟨on, [], true⟩, rest)
    else if on.contains withoutRepetition then none
    else if c = code ':' then some (⟨on, [], false⟩, rest)
    else if c = code '-' then offFlags on rest
    else none
  | _ => none

end Deflatten.Script.Pattern
