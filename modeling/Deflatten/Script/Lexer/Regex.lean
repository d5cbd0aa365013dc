import Deflatten.Script.Blank
import Deflatten.Script.Lexer.Numeral
import Deflatten.Script.Pattern.Check
/-!
# Regular expressions

A regular expression literal is a pattern between slashes and flags after it. The pattern must be well formed; flags are
not checked.
-/

namespace Deflatten.Script.Lexer

/-- Reads a pattern up to its closing slash, which does not count inside a class; `none` if the line ends first. -/
def patternBody : Bool → List Char → List Char → Option (List Char × List Char)
  | _, _, [] => none
  | _, _, ['\\'] => none
  | inClass, acc, '\\' :: c :: cs => if Blank.isLineEnd c then none else patternBody inClass (c :: '\\' :: acc) cs
  | inClass, acc, c :: cs =>
    if Blank.isLineEnd c then none
    else if c = '/' && !inClass then some (acc.reverse, cs)
    else if c = '[' then patternBody true (c :: acc) cs
    else if c = ']' then patternBody false (c :: acc) cs
    else patternBody inClass (c :: acc) cs

/-- Reads flags. A backslash that ends the text is one; an escape is tolerated only in tolerant reading, and `none` is
the fault. -/
def patternFlags (tolerant : Bool) : Nat → List Char → List Char → Option (List Char × List Char)
  | 0, acc, cs => some (acc.reverse, cs)
  | _ + 1, acc, [] => some (acc.reverse, [])
  | rounds + 1, acc, c :: cs =>
    if c = '\\' && cs.isEmpty then some ((c :: acc).reverse, [])
    else if c = '\\' then
      if !tolerant then none
      else
        match cs with
        | 'u' :: ds =>
          match fixedHex 4 0 ds with
          | some (code, es) => patternFlags tolerant rounds (Surrogate.charOf code :: acc) es
          | none => patternFlags tolerant rounds ('u' :: acc) ds
        | _ => patternFlags tolerant rounds acc cs
    else if Names.isPart c.toNat then patternFlags tolerant rounds (c :: acc) cs
    else some (acc.reverse, c :: cs)

/-- Reads a regular expression after its opening slash. -/
def regex (tolerant : Bool) (line : Nat) (cs : List Char) : Except Fault (Lexeme × List Char) :=
  match patternBody false [] cs with
  | none => .error ⟨line, .unterminatedRegex⟩
  | some (pattern, cs) =>
    match patternFlags tolerant cs.length [] cs with
    | none => .error ⟨line, .illegal⟩
    | some (flags, cs) =>
      if Pattern.isValid pattern || tolerant then
        .ok (.regex (String.ofList pattern) (String.ofList flags), cs)
      else .error ⟨line, .invalidRegex⟩

end Deflatten.Script.Lexer
