import Deflatten.Script.Fault
/-!
# Blanks and comments

`Blank.skip` passes over white space, line ends and comments and counts lines. A line comment may also be opened by
`<!--` in a script, and by `-->` where only blanks and comments stand before it on its line.
-/

namespace Deflatten.Script

namespace Blank

/-- Whether a character ends a line. -/
def isLineEnd (c : Char) : Bool := c == '\n' || c == '\r' || c == '\u2028' || c == '\u2029'

/-- Whether a character is white space within a line. -/
def isSpace (c : Char) : Bool :=
  c == ' ' || c == '\t' || c == '\x0b' || c == '\x0c' || c == '\u00a0' || c == '\u1680' || c == '\u180e' ||
    ('\u2000' ≤ c && c ≤ '\u200a') || c == '\u202f' || c == '\u205f' || c == '\u3000' || c == '\ufeff'

/-- Where in the blanks a reader stands. -/
inductive Place where
  | between
  | lineComment
  | blockComment
  deriving DecidableEq, Repr

/-- Passes over blanks. `fresh` tells whether a `-->` would open a comment. The answer is the line reached and the text
from there on. A comment that is not closed is a fault, or in tolerant reading goes to the end. -/
def skip (isModule tolerant : Bool) : Place → Nat → Bool → List Char → Except Fault (Nat × List Char)
  | .between, line, _, [] => .ok (line, [])
  | .between, line, _, '\r' :: '\n' :: cs => skip isModule tolerant .between (line + 1) true cs
  | .between, line, fresh, c :: cs =>
    if isLineEnd c then skip isModule tolerant .between (line + 1) true cs
    else if isSpace c then skip isModule tolerant .between line fresh cs
    else
      match c, cs with
      | '/', '/' :: ds => skip isModule tolerant .lineComment line true ds
      | '/', '*' :: ds => skip isModule tolerant .blockComment line fresh ds
      | '-', '-' :: '>' :: ds =>
        if fresh then skip isModule tolerant .lineComment line fresh ds else .ok (line, c :: cs)
      | '<', '!' :: '-' :: '-' :: ds =>
        if isModule then .ok (line, c :: cs) else skip isModule tolerant .lineComment line fresh ds
      | _, _ => .ok (line, c :: cs)
  | .lineComment, line, _, [] => .ok (line, [])
  | .lineComment, line, fresh, '\r' :: '\n' :: cs => skip isModule tolerant .between (line + 1) fresh cs
  | .lineComment, line, fresh, c :: cs =>
    if isLineEnd c then skip isModule tolerant .between (line + 1) fresh cs
    else skip isModule tolerant .lineComment line fresh cs
  | .blockComment, line, _, [] => if tolerant then .ok (line, []) else .error ⟨line, .illegal⟩
  | .blockComment, line, fresh, '\r' :: '\n' :: cs => skip isModule tolerant .blockComment (line + 1) fresh cs
  | .blockComment, line, fresh, '*' :: '/' :: cs => skip isModule tolerant .between line fresh cs
  | .blockComment, line, fresh, c :: cs =>
    if isLineEnd c then skip isModule tolerant .blockComment (line + 1) fresh cs
    else skip isModule tolerant .blockComment line fresh cs

end Blank
end Deflatten.Script
