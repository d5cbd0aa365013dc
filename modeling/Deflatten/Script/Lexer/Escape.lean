import Deflatten.Text.Names
import Deflatten.Script.Token
/-!
# Escapes and names

Escapes name a code point by its hexadecimal digits. A name is read to its end, its escapes decoded; an escape in
braces may name any code point, one without braces only a character that may stand there.
-/

namespace Deflatten.Script.Lexer

/-- The value of a hexadecimal digit. -/
def hexDigit? (c : Char) : Option Nat :=
  if '0' ≤ c ∧ c ≤ '9' then some (c.toNat - '0'.toNat)
  else if 'a' ≤ c ∧ c ≤ 'f' then some (c.toNat - 'a'.toNat + 10)
  else if 'A' ≤ c ∧ c ≤ 'F' then some (c.toNat - 'A'.toNat + 10)
  else none

/-- Reads exactly `count` hexadecimal digits. -/
def fixedHex : Nat → Nat → List Char → Option (Nat × List Char)
  | 0, code, cs => some (code, cs)
  | _ + 1, _, [] => none
  | count + 1, code, c :: cs => (hexDigit? c).bind fun d => fixedHex count (16 * code + d) cs

/-- Reads hexadecimal digits up to a closing brace. -/
def hexToBrace (code : Nat) : List Char → Option (Nat × List Char)
  | [] => none
  | c :: cs =>
    if c = '}' then if code ≤ 0x10ffff then some (code, cs) else none
    else (hexDigit? c).bind fun d => hexToBrace (16 * code + d) cs

/-- Reads an escape in braces after its opening brace; at least one digit stands there. -/
def bracedHex : List Char → Option (Nat × List Char)
  | '}' :: _ => none
  | cs => hexToBrace 0 cs

/-- Reads the rest of an escape in a name after its backslash. -/
def nameEscape (allowed : Nat → Bool) : List Char → Option (Nat × List Char)
  | 'u' :: '{' :: cs => bracedHex cs
  | 'u' :: cs => (fixedHex 4 0 cs).filter fun r => allowed r.1
  | _ => none

/-- Reads the rest of a name. The answer is its code points, whether an escape was met, and what follows; `none` if an
escape is malformed. Each round takes a character, so as many rounds as characters suffice. -/
def nameTail : Nat → List Nat → Bool → List Char → Option (List Nat × Bool × List Char)
  | 0, acc, escaped, cs => some (acc.reverse, escaped, cs)
  | _ + 1, acc, escaped, [] => some (acc.reverse, escaped, [])
  | rounds + 1, acc, escaped, c :: cs =>
    if c = '\\' then (nameEscape Names.isPart cs).bind fun (code, ds) => nameTail rounds (code :: acc) true ds
    else if Names.isPart c.toNat then nameTail rounds (c.toNat :: acc) escaped cs
    else some (acc.reverse, escaped, c :: cs)

/-- Reads a name that begins here. -/
def nameHere (cs : List Char) : Option (List Nat × Bool × List Char) :=
  match cs with
  | '\\' :: ds => (nameEscape Names.isStart ds).bind fun (code, es) => nameTail es.length [code] true es
  | _ => nameTail cs.length [] false cs

/-- Whether a name begins with this character, a backslash opening an escape. -/
def beginsName : List Char → Bool
  | [] => false
  | c :: _ => c = '\\' || Names.isStart c.toNat

end Deflatten.Script.Lexer
