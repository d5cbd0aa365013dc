import Deflatten.Script.Printer.Value
/-!
# Layout

How pieces of text are put together: a level of indentation is four spaces, and `join` puts a space between two pieces
unless one of them already stands apart.
-/

namespace Deflatten.Script.Printer

/-- The blanks before a line at a level of indentation. -/
def pad (level : Nat) : String := String.ofList (List.replicate (4 * level) ' ')

/-- A new line at a level of indentation. -/
def newLine (level : Nat) : String := "\n" ++ pad level

/-- Whether a text has more than one line. -/
def hasLineEnd (s : String) : Bool := s.any Blank.isLineEnd

/-- Whether a character is a blank. -/
def isBlank (c : Char) : Bool := Blank.isSpace c || Blank.isLineEnd c

/-- The first character of a text. -/
def firstChar? (s : String) : Option Char := s.toList.head?

/-- The last character of a text. -/
def lastChar? (s : String) : Option Char := s.toList.getLast?

/-- Two pieces with a space between them, unless one is empty or there is a blank already. -/
def join (left right : String) : String :=
  match lastChar? left, firstChar? right with
  | some l, some r => if isBlank l || isBlank r then left ++ right else left ++ " " ++ right
  | _, _ => left ++ right

/-- A text in parentheses. -/
def parenthesised (s : String) : String := "(" ++ s ++ ")"

/-- A text in parentheses if it has more than one line. -/
def keptTogether (s : String) : String := if hasLineEnd s then parenthesised s else s

/-- Items separated by a comma and a space. -/
def commas (items : List String) : String := ", ".intercalate items

/-- Items on lines of their own, separated by commas, before a closing mark on a line of its own. -/
def stacked (level : Nat) (items : List String) (close : String) : String :=
  newLine (level + 1) ++ ("," ++ newLine (level + 1)).intercalate items ++ newLine level ++ close

/-! ## Precedence -/

/-- What is asked of the text of an expression: the precedence that it has at least, whether `in` and calls may stand
in it unparenthesised, and whether it stands within `??`. -/
structure Ask where
  least : Nat
  allowIn : Bool := true
  allowCall : Bool := true
  inCoalesce : Bool := false

namespace Precedence

/-- The precedence of a sequence. -/
def sequence : Nat := 0

/-- The precedence of an assignment. -/
def assignment : Nat := 1

/-- The precedence of a conditional or an arrow function. -/
def conditional : Nat := 2

/-- The precedence of `??`. -/
def coalesce : Nat := 3

/-- The precedence of `**`. -/
def power : Nat := 14

/-- The precedence of an operator of one operand before it. -/
def unary : Nat := 15

/-- The precedence of an operator of one operand after it. -/
def postfixed : Nat := 16

/-- The precedence of a chain of parts that may be left out. -/
def optionalChain : Nat := 17

/-- The precedence of a call. -/
def call : Nat := 18

/-- The precedence of `new`. -/
def new : Nat := 19

/-- The precedence of a tagged template. -/
def tagged : Nat := 20

/-- The precedence of a member. -/
def member : Nat := 21

/-- The precedence of what needs no parentheses anywhere. -/
def primary : Nat := 22

/-- The precedence of an operator of two operands. -/
def binary? : String → Option Nat
  | "??" => some coalesce
  | "||" => some 4
  | "&&" => some 5
  | "|" => some 6
  | "^" => some 7
  | "&" => some 8
  | "==" | "!=" | "===" | "!==" | "is" | "isnt" => some 9
  | "<" | ">" | "<=" | ">=" | "in" | "instanceof" => some 10
  | "<<" | ">>" | ">>>" => some 11
  | "+" | "-" => some 12
  | "*" | "/" | "%" => some 13
  | "**" => some power
  | _ => none

end Precedence

/-- A request for a precedence and nothing else. -/
def asking (least : Nat) : Ask := { least }

/-- The request for a part of an expression of precedence `own`: inside parentheses `in` may stand freely. -/
def Ask.inner (a : Ask) (own least : Nat) : Ask := { a with least, allowIn := a.allowIn || own < a.least }

/-- A text of precedence `own`, in parentheses if more is asked for. -/
def Ask.enclose (a : Ask) (own : Nat) (s : String) : String := if own < a.least then parenthesised s else s

end Deflatten.Script.Printer
