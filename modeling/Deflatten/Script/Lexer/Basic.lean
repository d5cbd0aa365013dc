import Deflatten.Script.Lexer.Mark
import Deflatten.Script.Lexer.Quoted
import Deflatten.Script.Lexer.Regex
/-!
# Reading the next token

`Cursor` is a place in a script, with the line and the braces that are open: after the brace that closes a template
substitution, the template goes on. `Cursor.skipBlanks` and `Cursor.lex` read on from there.
-/

namespace Deflatten.Script

/-- How a script is read. -/
structure Mode where
  isModule : Bool
  tolerant : Bool
  deriving DecidableEq, Repr

/-- What opened a brace. -/
inductive Brace where
  | plain
  | substitution
  deriving DecidableEq, Repr

/-- A place in a script. -/
structure Cursor where
  rest : List Char
  line : Nat
  atStart : Bool
  braces : List Brace

namespace Cursor

/-- The start of a script. -/
def start (source : String) : Cursor := ⟨source.toList, 1, true, []⟩

/-- Passes over blanks and comments. -/
def skipBlanks (c : Cursor) (mode : Mode) : Except Fault Cursor := do
  let (line, rest) ← Blank.skip mode.isModule mode.tolerant .between c.line c.atStart c.rest
  return { c with line, rest }

/-- A token that ends at a cursor. -/
def token (c : Cursor) (lexeme : Lexeme) : Token × Cursor := (⟨lexeme, c.line⟩, { c with atStart := false })

/-- Reads a name or reserved word. A reserved word may not be written with escapes. -/
def lexName (c : Cursor) (mode : Mode) : Except Fault (Token × Cursor) :=
  match Lexer.nameHere c.rest with
  | none => .error ⟨c.line, .illegal⟩
  | some (codes, escaped, rest) =>
    let lexeme := Lexeme.ofWord (Surrogate.text codes)
    let plain := match lexeme with
      | .name _ => true
      | _ => false
    if escaped && !plain && !mode.tolerant then .error ⟨c.line, .escapedKeyword⟩
    else .ok ({ c with rest }.token lexeme)

/-- Reads a string after its opening quote. -/
def lexString (c : Cursor) (mode : Mode) (quote : Char) (rest : List Char) : Except Fault (Token × Cursor) := do
  let (body, rest) ← Lexer.stringBody mode.tolerant quote rest.length ⟨[], false, c.line⟩ rest
  return { c with rest, line := body.line }.token (.string body.codePoints.reverse body.octal)

/-- Reads a template piece after its opening back quote, or after the brace that closed a substitution. -/
def lexTemplate (c : Cursor) (head : Bool) (rest : List Char) : Except Fault (Token × Cursor) := do
  let (ending, line, after) ← Lexer.templateBody rest.length c.line rest
  let read := (Lexer.before rest after).dropLast
  match ending with
  | .closed =>
    let braces := if head then c.braces else c.braces.drop 1
    return { c with rest := after, line, braces }.token (.template (String.ofList read) head true)
  | .substitution =>
    let braces := if head then .substitution :: c.braces else c.braces
    return { c with rest := after, line, braces }.token (.template (String.ofList read.dropLast) head false)

/-- Reads a mark and keeps count of the open braces. -/
def lexMark (c : Cursor) : Except Fault (Token × Cursor) :=
  match Lexer.mark? c.rest with
  | none => .error ⟨c.line, .illegal⟩
  | some (mark, rest) =>
    let braces :=
      if mark == "\x7b" then .plain :: c.braces
      else if mark == "\x7d" then c.braces.drop 1
      else c.braces
    .ok ({ c with rest, braces }.token (.mark mark))

/-- Reads the token that stands here. -/
def lex (c : Cursor) (mode : Mode) : Except Fault (Token × Cursor) :=
  match c.rest with
  | [] => .ok (c.token .endOfInput)
  | d :: ds =>
    let isNumeral := d.isDigit || (d == '.' && ds.head?.any Char.isDigit)
    let closes := d == '\x7d' && c.braces.head? == some .substitution
    if Lexer.beginsName c.rest then c.lexName mode
    else if d == '\'' || d == '"' then c.lexString mode d ds
    else if isNumeral then
      match Lexer.numeral c.rest with
      | none => .error ⟨c.line, .illegal⟩
      | some (value, octal, rest) => .ok ({ c with rest }.token (.number value octal))
    else if d == '\u0060' then c.lexTemplate true ds
    else if closes then c.lexTemplate false ds
    else c.lexMark

/-- Reads a regular expression that begins here. -/
def lexRegex (c : Cursor) (mode : Mode) : Except Fault (Token × Cursor) := do
  let (lexeme, rest) ← Lexer.regex mode.tolerant c.line (c.rest.drop 1)
  return { c with rest }.token lexeme

/-- Looks at the next token and stays in place. The braces that it opens or closes remain counted. -/
def peek (c : Cursor) (mode : Mode) : Except Fault (Token × Cursor) := do
  let (token, after) ← (← c.skipBlanks mode).lex mode
  return (token, { c with braces := after.braces })

end Cursor
end Deflatten.Script
