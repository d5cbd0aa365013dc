import Deflatten.Text.Printable
import Deflatten.Text.Surrogate
/-!
# Quoted text

Messages show a text in quotes: in single quotes, unless it holds a single quote and no double one. The quote, the
backslash and every character that is not printable are escaped.
-/

namespace Deflatten.Quoted

/-- A number in hexadecimal digits, padded with zeros. -/
def hexadecimal (width n : Nat) : String :=
  let digits := Nat.toDigits 16 n
  String.ofList (List.replicate (width - digits.length) '0' ++ digits)

/-- The escape of a code point, as short as its size allows. -/
def numericEscape (c : Nat) : String :=
  if c ≤ 0xff then "\\x" ++ hexadecimal 2 c
  else if c ≤ 0xffff then "\\u" ++ hexadecimal 4 c
  else "\\U" ++ hexadecimal 8 c

/-- The mark that encloses a text. -/
def mark (s : String) : Char := if s.contains '\'' && !s.contains '"' then '"' else '\''

/-- A character as it stands within marks. -/
def piece (mark c : Char) : String :=
  if c = mark then "\\" ++ String.singleton c
  else match c with
  | '\\' => "\\\\"
  | '\t' => "\\t"
  | '\n' => "\\n"
  | '\r' => "\\r"
  | c =>
    if Printable.isPrintable (Surrogate.codePoint c) then String.singleton c else numericEscape (Surrogate.codePoint c)

/-- A text in quotes. -/
def quoted (s : String) : String :=
  let m := mark s
  String.singleton m ++ String.join (s.toList.map (piece m)) ++ String.singleton m

end Deflatten.Quoted
