import Deflatten.Number.Basic
import Deflatten.Script.Fault
import Deflatten.Text.Surrogate
/-!
# Tokens

A token is a lexeme and the line that it ends on. The reserved words and the marks of the language are listed here.
-/

namespace Deflatten.Script

/-- What a token is. A string carries its code points, and whether an octal escape occurs in it; a template piece
carries its raw text, and whether it opens and closes the template. -/
inductive Lexeme where
  | endOfInput
  | bool (value : Bool)
  | null
  | name (text : String)
  | keyword (text : String)
  | number (value : Number) (octal : Bool)
  | string (codePoints : List Nat) (octal : Bool)
  | template (raw : String) (head tail : Bool)
  | regex (pattern flags : String)
  | mark (text : String)
  deriving DecidableEq, Repr, Inhabited

/-- A lexeme and the line that it ends on. -/
structure Token where
  lexeme : Lexeme
  line : Nat
  deriving DecidableEq, Repr, Inhabited

namespace Words

/-- Words that are never names. -/
def keywords : List String := [
  "if", "in", "do", "var", "for", "new", "try", "let", "this", "else", "case", "void", "with", "enum", "while",
  "break", "catch", "throw", "const", "yield", "class", "super", "return", "typeof", "delete", "switch", "export",
  "import", "default", "finally", "extends", "function", "continue", "debugger", "instanceof"]

/-- Keywords that have a meaning in no place where they are met by surprise. -/
def future : List String := ["enum", "export", "import", "super"]

/-- Words that are reserved in strict code only. -/
def strict : List String :=
  ["implements", "interface", "package", "private", "protected", "public", "static", "yield", "let"]

/-- Names that strict code may not bind or assign. -/
def restricted : List String := ["eval", "arguments"]

end Words

namespace Lexeme

/-- The text of a lexeme as a message shows it. -/
def shown : Lexeme → String
  | .endOfInput => ""
  | .bool b => if b then "true" else "false"
  | .null => "null"
  | .name s | .keyword s | .mark s => s
  | .number n _ => n.text
  | .string cs _ => Surrogate.text cs
  | .template raw _ _ => raw
  | .regex _ _ => ""

/-- Whether a lexeme has something to show: the end, an empty text and the number zero have not. -/
def isShown : Lexeme → Bool
  | .number n _ => !n.same (.int 0)
  | l => !l.shown.isEmpty

/-- Whether a lexeme is no number of too many digits to be shown. -/
def isWritable : Lexeme → Bool
  | .number n _ => n.isWritable
  | _ => true

/-- Whether a lexeme is a string or number with an octal form. -/
def isOctal : Lexeme → Bool
  | .number _ octal | .string _ octal => octal
  | _ => false

/-- Whether a lexeme may stand after a point: a name or any reserved word. -/
def isNameLike : Lexeme → Bool
  | .name _ | .keyword _ | .bool _ | .null => true
  | _ => false

/-- Whether a lexeme may begin the key of a property. -/
def beginsKey : Lexeme → Bool
  | .string _ _ | .number _ _ => true
  | .mark s => s == "["
  | l => l.isNameLike

/-- The text of a name or reserved word. -/
def nameText? : Lexeme → Option String
  | .name s | .keyword s => some s
  | .bool b => some (if b then "true" else "false")
  | .null => some "null"
  | _ => none

/-- The lexeme of a word that is written without escapes. -/
def ofWord (s : String) : Lexeme :=
  if Words.keywords.contains s then .keyword s
  else if s == "null" then .null
  else if s == "true" then .bool true
  else if s == "false" then .bool false
  else .name s

/-- In strict code some more names are keywords. -/
def inStrict : Lexeme → Lexeme
  | .name s => if Words.strict.contains s then .keyword s else .name s
  | l => l

/-- The reason to give when a lexeme is met where it cannot stand. -/
def surprise (strict : Bool) : Lexeme → Fault.Cause
  | .endOfInput => .unexpectedEnd
  | .name _ => .unexpectedName
  | .number _ _ => .unexpectedNumber
  | .string _ _ => .unexpectedString
  | .template raw _ _ => .unexpectedTemplate raw
  | .keyword s =>
    if Words.future.contains s then .unexpectedReserved
    else if strict && Words.strict.contains s then .strictReserved
    else .unexpected s
  | l => .unexpected l.shown

end Lexeme
end Deflatten.Script
