/-!
# Space

White space as Unicode has it, with the four separators U+001C to U+001F, and texts without the space at their ends.
-/

namespace Deflatten.Space

/-- Whether a character is white space or one of the four separators. -/
def isSpace (c : Char) : Bool :=
  ('\t' ≤ c && c ≤ '\r') || ('\x1c' ≤ c && c ≤ ' ') || c == '\u0085' || c == '\u00a0' || c == '\u1680' ||
    ('\u2000' ≤ c && c ≤ '\u200a') || c == '\u2028' || c == '\u2029' || c == '\u202f' || c == '\u205f' ||
    c == '\u3000'

/-- A text without the space at its ends. -/
def trimmed (s : String) : String :=
  let cut (cs : List Char) := cs.dropWhile isSpace
  String.ofList (cut (cut s.toList).reverse).reverse

end Deflatten.Space
