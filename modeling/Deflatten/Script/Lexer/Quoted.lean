import Deflatten.Script.Blank
import Deflatten.Script.Lexer.Numeral
/-!
# Strings and templates

A string ends at its quote and may not hold a bare line end; a template piece ends at a back quote or at `${`, written
here by code point where a brace is meant. Both decode escapes and count the lines inside them.
-/

namespace Deflatten.Script.Lexer

/-- The characters before a rest of a text. -/
def before (cs rest : List Char) : List Char := cs.take (cs.length - rest.length)

/-- The one-letter escapes. -/
def letterEscape? (c : Char) : Option Nat :=
  match c with
  | 'n' => some 10
  | 'r' => some 13
  | 't' => some 9
  | 'b' => some 8
  | 'v' => some 11
  | 'f' => some 12
  | _ => none

/-- An octal escape after its backslash: its code, whether it is more than a lone zero, and what follows. A third digit
is taken only if the code stays below 256. -/
def octalEscape (c : Char) (cs : List Char) : Nat × Bool × List Char :=
  let digit (c : Char) := c.toNat - '0'.toNat
  match cs with
  | d :: ds =>
    if isOctalDigit d then
      let two := 8 * digit c + digit d
      match ds with
      | e :: es => if c ≤ '3' && isOctalDigit e then (8 * two + digit e, true, es) else (two, true, ds)
      | [] => (two, true, ds)
    else (digit c, c != '0', cs)
  | [] => (digit c, c != '0', cs)

/-- The body of a string as far as it has been read. -/
structure StringBody where
  codePoints : List Nat
  octal : Bool
  line : Nat

/-- Adds a code point. -/
def StringBody.push (b : StringBody) (c : Nat) : StringBody := { b with codePoints := c :: b.codePoints }

/-- Reads a string up to its closing quote, in at most as many rounds as there are characters. The code points come out
in reverse. -/
def stringBody (tolerant : Bool) (quote : Char) : Nat → StringBody → List Char → Except Fault (StringBody × List Char)
  | 0, b, _ => .error ⟨b.line, .illegal⟩
  | _ + 1, b, [] => .error ⟨b.line, .illegal⟩
  | rounds + 1, b, c :: cs =>
    if c = quote then .ok (b, cs)
    else if c = '\\' then
      match cs with
      | [] => .error ⟨b.line, .illegal⟩
      | '\r' :: '\n' :: ds => stringBody tolerant quote rounds { b with line := b.line + 1 } ds
      | d :: ds =>
        if Blank.isLineEnd d then stringBody tolerant quote rounds { b with line := b.line + 1 } ds
        else if d = 'u' then
          let escape := match ds with
            | '{' :: es => bracedHex es
            | _ => fixedHex 4 0 ds
          match escape with
          | some (code, es) => stringBody tolerant quote rounds (b.push code) es
          | none => .error ⟨b.line, .illegal⟩
        else if d = 'x' then
          match fixedHex 2 0 ds with
          | some (code, es) => stringBody tolerant quote rounds (b.push code) es
          | none => .error ⟨b.line, .invalidHexEscape⟩
        else if d = '8' ∨ d = '9' then
          if tolerant then stringBody tolerant quote rounds (b.push d.toNat) ds else .error ⟨b.line, .illegal⟩
        else if isOctalDigit d then
          let (code, octal, es) := octalEscape d ds
          stringBody tolerant quote rounds { b.push code with octal := octal || b.octal } es
        else stringBody tolerant quote rounds (b.push ((letterEscape? d).getD d.toNat)) ds
    else if Blank.isLineEnd c then .error ⟨b.line, .illegal⟩
    else stringBody tolerant quote rounds (b.push c.toNat) cs

/-- How a template piece ends. -/
inductive TemplateEnd where
  | closed
  | substitution
  deriving DecidableEq, Repr

/-- Reads a template piece to its end, in at most as many rounds as there are characters. The answer is how it ends,
the line reached and what follows. -/
def templateBody : Nat → Nat → List Char → Except Fault (TemplateEnd × Nat × List Char)
  | 0, line, _ => .error ⟨line, .illegal⟩
  | _ + 1, line, [] => .error ⟨line, .illegal⟩
  | rounds + 1, line, c :: cs =>
    match c, cs with
    | '\u0060', _ => .ok (.closed, line, cs)
    | '$', '{' :: ds => .ok (.substitution, line, ds)
    | '\\', '\r' :: '\n' :: ds => templateBody rounds (line + 1) ds
    | '\\', d :: ds =>
      if Blank.isLineEnd d then templateBody rounds (line + 1) ds
      else if d = 'u' then
        match ds with
        | '{' :: es =>
          match bracedHex es with
          | some (_, fs) => templateBody rounds line fs
          | none => .error ⟨line, .illegal⟩
        | _ => templateBody rounds line ds
      else if d = 'x' then
        match fixedHex 2 0 ds with
        | some (_, es) => templateBody rounds line es
        | none => .error ⟨line, .invalidHexEscape⟩
      else if d = '0' then
        if ds.head?.any Char.isDigit then .error ⟨line, .templateOctal⟩ else templateBody rounds line ds
      else if isOctalDigit d then .error ⟨line, .templateOctal⟩
      else templateBody rounds line ds
    | '\r', '\n' :: ds => templateBody rounds (line + 1) ds
    | _, _ => templateBody rounds (if Blank.isLineEnd c then line + 1 else line) cs

end Deflatten.Script.Lexer
