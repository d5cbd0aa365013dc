import Deflatten.Text.Names
import Deflatten.Text.Surrogate
import Deflatten.Script.Blank
import Deflatten.Script.Printer.Refusal
/-!
# Literals as text

A string stands in single quotes. Control characters, quotes, surrogates and whatever is neither ASCII nor part of a
name are escaped. An integer that binary64 holds exactly is written with all its digits; any other number as binary64.
-/

namespace Deflatten.Script.Printer

/-! ## Strings -/

/-- A number in capital hexadecimal digits, padded with zeros. -/
def hexadecimal (width n : Nat) : String :=
  let digits := (Nat.toDigits 16 n).map Char.toUpper
  String.ofList (List.replicate (width - digits.length) '0' ++ digits)

/-- The escape of one unit of sixteen bits. -/
def unitEscape (unit : Nat) : String := "\\u" ++ hexadecimal 4 unit

/-- The short escape of a code point that has one. -/
def shortEscape? : Nat → Option String
  | 8 => some "\\b"
  | 9 => some "\\t"
  | 10 => some "\\n"
  | 11 => some "\\x0b"
  | 12 => some "\\f"
  | 13 => some "\\r"
  | 39 => some "\\'"
  | 92 => some "\\\\"
  | _ => none

/-- Whether a code point may stand in a string as it is. -/
def isPlain (c : Nat) : Bool := (0x20 ≤ c && c ≤ 0x7e) || (0x7f < c && Names.isWrittenPart c)

/-- A code point inside a string; `digitFollows` tells whether a decimal digit comes next. -/
def stringPiece (c : Nat) (digitFollows : Bool) : String :=
  match shortEscape? c with
  | some s => s
  | none =>
    if c = 0 then if digitFollows then "\\x00" else "\\0"
    else if isPlain c then String.singleton (Char.ofNat c)
    else if c ≤ 0xff then "\\x" ++ hexadecimal 2 c
    else if c ≤ 0xffff then unitEscape c
    else
      let offset := c - 0x10000
      unitEscape (0xd800 + offset / 0x400) ++ unitEscape (0xdc00 + offset % 0x400)

/-- The code points of a string, escaped. -/
def stringBody : List Nat → String
  | [] => ""
  | c :: cs => stringPiece c (cs.head?.any fun d => 48 ≤ d && d ≤ 57) ++ stringBody cs

/-- A string literal. -/
def stringText (s : String) : String := "'" ++ stringBody (Surrogate.codePoints s) ++ "'"

/-! ## Numbers -/

/-- A binary64 number; infinity is a decimal too large to hold. -/
def binary64Text : Binary64 → Printing String
  | .nan => .error .numberNan
  | .infinity negative => .ok (if negative then "-1e400" else "1e400")
  | .finite true 0 _ => .ok "-0"
  | x => .ok x.text

/-- A number. -/
def numberText : Number → Printing String
  | .int n =>
    match Binary64.ofInt? n with
    | none => .error .numberTooLarge
    | some x => .ok (if x.toInt? = some n then toString n else x.text)
  | .float x => binary64Text x

/-- Whether a number is written with a minus sign. -/
def isSigned : Number → Bool
  | .int n => n < 0
  | .float (.finite negative _ _) => negative
  | .float (.infinity negative) => negative
  | .float .nan => false

/-! ## Regular expressions -/

/-- Whether flags are known, none is repeated, and not both of `u` and `v` are there. -/
def flagsAreValid (flags : List Char) : Bool :=
  flags.all ("dgimsuvy".toList.contains ·) && flags.eraseDups.length == flags.length &&
    !(flags.contains 'u' && flags.contains 'v')

/-- A character of a pattern on one line; the escape of a line end takes a backslash that stands before it already. -/
def patternPiece (isEscaped : Bool) (c : Char) : String :=
  let escape (s : String) : String := if isEscaped then s else "\\" ++ s
  match c with
  | '\n' => escape "n"
  | '\r' => escape "r"
  | '\u2028' => escape "u2028"
  | '\u2029' => escape "u2029"
  | c => String.singleton c

/-- A pattern between slashes: a slash that stands neither in brackets nor behind a backslash gets one. -/
def patternBody (inBrackets isEscaped : Bool) : List Char → String
  | [] => ""
  | c :: cs =>
    if isEscaped then patternPiece true c ++ patternBody inBrackets false cs
    else
      (if c == '/' && !inBrackets then "\\" else "") ++ patternPiece false c ++
        patternBody (if inBrackets then c != ']' else c == '[') (c == '\\') cs

/-- A regular expression without its flags. The empty one would open a comment, so it is written as a group. -/
def regexText (pattern : String) : String :=
  "/" ++ (if pattern.isEmpty then "(?:)" else patternBody false false pattern.toList) ++ "/"

end Deflatten.Script.Printer
