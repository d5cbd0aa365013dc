/-!
# Marks

The marks of the language, longest first, so that the first one that fits is the longest.
-/

namespace Deflatten.Script.Lexer

/-- All marks, longest first. -/
def marks : List String := [
  ">>>=",
  "...", "===", "!==", ">>>", "<<=", ">>=", "**=",
  "&&", "||", "==", "!=", "+=", "-=", "*=", "/=", "++", "--", "<<", ">>", "&=", "|=", "^=", "%=", "<=", ">=", "=>",
  "**",
  "(", ")", "\x7b", "\x7d", ".", ";", ",", "[", "]", ":", "?", "~", "<", ">", "=", "!", "+", "-", "*", "%", "&", "|",
  "^", "/"]

/-- What follows `start` in a text that begins with it. -/
def dropStart? : List Char → List Char → Option (List Char)
  | [], cs => some cs
  | _ :: _, [] => none
  | p :: ps, c :: cs => if p = c then dropStart? ps cs else none

/-- The mark that stands here, and what follows it. -/
def mark? (cs : List Char) : Option (String × List Char) :=
  marks.findSome? fun m => (dropStart? m.toList cs).map (m, ·)

end Deflatten.Script.Lexer
