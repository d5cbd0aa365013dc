import Deflatten.Json.Basic
import Deflatten.Number.Decimal
import Deflatten.Text.Surrogate
/-!
# Reading JSON

`Json.parse` reads a text that holds one value. The numbers `NaN`, `Infinity` and `-Infinity` are read too; of members
with one name the last value counts, at the first place. A fault names its cause and its place in the text; inside the
reader the place is told by how many characters are left.
-/

namespace Deflatten.Json

/-- Why a text is no JSON. -/
inductive Cause where
  | byteOrderMark
  | noValue
  | noName
  | noColon
  | noComma
  | extraData
  | openString
  | controlCharacter
  | badEscape
  | badUnit
  | longInteger (digits : Nat)
  deriving DecidableEq, Repr

/-- The words for a cause. -/
def Cause.words : Cause → String
  | .byteOrderMark => "Unexpected UTF-8 BOM (decode using utf-8-sig)"
  | .noValue => "Expecting value"
  | .noName => "Expecting property name enclosed in double quotes"
  | .noColon => "Expecting ':' delimiter"
  | .noComma => "Expecting ',' delimiter"
  | .extraData => "Extra data"
  | .openString => "Unterminated string starting at"
  | .controlCharacter => "Invalid control character at"
  | .badEscape => "Invalid \\escape"
  | .badUnit => "Invalid \\uXXXX escape"
  | .longInteger digits => Number.readingFault digits

/-- Whether the place of a cause is told with it. -/
def Cause.hasPlace : Cause → Bool
  | .longInteger _ => false
  | _ => true

/-- A cause, and how many characters of the text were left at its place. -/
structure Stop where
  cause : Cause
  left : Nat
  deriving DecidableEq, Repr

/-- What is read, and the text after it. -/
abbrev Taken (α : Type) := α × List Char

/-- Stops at the head of a text. -/
def stopAt {α : Type} (cause : Cause) (cs : List Char) : Except Stop α := .error ⟨cause, cs.length⟩

/-- Whether a character may stand between values. -/
def isBlank (c : Char) : Bool := c == ' ' || c == '\t' || c == '\n' || c == '\r'

/-- A text without its leading blanks. -/
def skipBlank (cs : List Char) : List Char := cs.dropWhile isBlank

/-! ## Text -/

/-- The value of a hexadecimal digit. -/
def hexDigit? (c : Char) : Option Nat :=
  if '0' ≤ c ∧ c ≤ '9' then some (c.toNat - '0'.toNat)
  else if 'a' ≤ c ∧ c ≤ 'f' then some (c.toNat - 'a'.toNat + 10)
  else if 'A' ≤ c ∧ c ≤ 'F' then some (c.toNat - 'A'.toNat + 10)
  else none

/-- The unit that four hexadecimal digits name. -/
def unit? (a b c d : Char) : Option Nat := do
  return ((← hexDigit? a) * 16 + (← hexDigit? b)) * 256 + ((← hexDigit? c) * 16 + (← hexDigit? d))

/-- The character of a short escape. -/
def shortEscape? : Char → Option Char
  | '"' => some '"'
  | '\\' => some '\\'
  | '/' => some '/'
  | 'b' => some '\x08'
  | 'f' => some '\x0c'
  | 'n' => some '\n'
  | 'r' => some '\r'
  | 't' => some '\t'
  | _ => none

/-- Reads the code points of a text up to its closing quote; `opening` tells how much was left at the opening one. The
digits of an escape never reach the end of the whole text. -/
def codePoints (opening : Nat) : List Char → Except Stop (Taken (List Nat))
  | [] => .error ⟨.openString, opening⟩
  | '"' :: cs => .ok ([], cs)
  | ['\\'] => .error ⟨.openString, opening⟩
  | '\\' :: 'u' :: a :: b :: c :: d :: e :: cs =>
    match unit? a b c d with
    | some unit => (codePoints opening (e :: cs)).map fun (us, rest) => (unit :: us, rest)
    | none => .error ⟨.badUnit, cs.length + 6⟩
  | '\\' :: 'u' :: cs => .error ⟨.badUnit, cs.length + 1⟩
  | '\\' :: c :: cs =>
    match shortEscape? c with
    | some k => (codePoints opening cs).map fun (us, rest) => (k.toNat :: us, rest)
    | none => .error ⟨.badEscape, cs.length + 2⟩
  | c :: cs =>
    if c.toNat < 0x20 then .error ⟨.controlCharacter, cs.length + 1⟩
    else (codePoints opening cs).map fun (us, rest) => (c.toNat :: us, rest)

/-- The characters of code points, each pair of surrogates as one. -/
def characters : List Nat → List Char
  | [] => []
  | [u] => [Surrogate.charOf u]
  | u :: v :: us =>
    if 0xd800 ≤ u ∧ u < 0xdc00 ∧ 0xdc00 ≤ v ∧ v < 0xe000 then
      Char.ofNat (0x10000 + (u - 0xd800) * 0x400 + (v - 0xdc00)) :: characters us
    else Surrogate.charOf u :: characters (v :: us)

/-- Reads a text after its opening quote. -/
def textTail (cs : List Char) : Except Stop (Taken String) :=
  (codePoints (cs.length + 1) cs).map fun (us, rest) => (String.ofList (characters us), rest)

/-! ## Numbers -/

/-- The fraction digits after a point, at least one; otherwise the point is not read. -/
def takeFraction : List Char → List Char × List Char
  | '.' :: cs => if (cs.takeWhile Char.isDigit).isEmpty then ([], '.' :: cs) else cs.span Char.isDigit
  | cs => ([], cs)

/-- The exponent after its mark, with at least one digit; otherwise the mark is not read. -/
def takeExponent : List Char → Option Int × List Char
  | [] => (none, [])
  | c :: cs =>
    let (negative, ds) := Decimal.takeSign cs
    if (c = 'e' ∨ c = 'E') ∧ !(ds.takeWhile Char.isDigit).isEmpty then
      (some (Binary64.signed negative (Decimal.natural (ds.takeWhile Char.isDigit))), ds.dropWhile Char.isDigit)
    else (none, c :: cs)

/-- The digits before the point: a zero alone, or digits that do not begin with one. -/
def takeWhole : List Char → List Char × List Char
  | '0' :: cs => (['0'], cs)
  | cs => cs.span Char.isDigit

/-- Reads a number without its sign. One without point and exponent is an integer. -/
def unsignedNumber? (negative : Bool) (cs : List Char) : Option (Number × List Char) :=
  match takeWhole cs with
  | ([], _) => none
  | (whole, rest) =>
    let (fraction, rest) := takeFraction rest
    let (exponent, rest) := takeExponent rest
    if fraction.isEmpty && exponent.isNone then some (.int (Binary64.signed negative (Decimal.natural whole)), rest)
    else some (.float (.ofParts ⟨negative, whole, fraction, exponent.getD 0⟩), rest)

/-- Reads a number. -/
def number? : List Char → Option (Number × List Char)
  | '-' :: cs => unsignedNumber? true cs
  | cs => unsignedNumber? false cs

/-! ## Values -/

/-- The values that are written as a word. -/
def words : List (String × Json) :=
  [("null", .null), ("true", .bool true), ("false", .bool false), ("NaN", .number (.float .nan)),
    ("Infinity", .number (.float (.infinity false))), ("-Infinity", .number (.float (.infinity true)))]

/-- Reads a value that is written as a word. -/
def word? (cs : List Char) : Option (Json × List Char) :=
  words.findSome? fun (w, j) => if w.toList.isPrefixOf cs then some (j, cs.drop w.length) else none

/-- How many digits a number has before its point. -/
def wholeLength (cs : List Char) : Nat := (takeWhole (if cs.head? = some '-' then cs.tail else cs)).1.length

/-- Reads a word or a number. An integer of too many digits is not read. -/
def plainValue (cs : List Char) : Except Stop (Taken Json) :=
  match word? cs with
  | some r => .ok r
  | none =>
    match number? cs with
    | some (.int n, rest) =>
      if Number.maxDigits < wholeLength cs then stopAt (.longInteger (wholeLength cs)) cs
      else .ok (.number (.int n), rest)
    | some (n, rest) => .ok (.number n, rest)
    | none => stopAt .noValue cs

mutual

/-- Reads a value. Every value and every round of a list takes a character, so twice as many rounds as characters
suffice. -/
def value : Nat → List Char → Except Stop (Taken Json)
  | 0, cs => stopAt .noValue cs
  | rounds + 1, cs =>
    match cs with
    | '"' :: cs => (textTail cs).map fun (s, rest) => (.text s, rest)
    | '[' :: cs =>
      match skipBlank cs with
      | ']' :: cs => .ok (.list [], cs)
      | cs => (items rounds cs).map fun (js, rest) => (.list js, rest)
    | '\x7b' :: cs =>
      match skipBlank cs with
      | '\x7d' :: cs => .ok (.object [], cs)
      | cs => (memberList rounds [] cs).map fun (ms, rest) => (.object ms, rest)
    | cs => plainValue cs

/-- Reads the items of a list up to its closing bracket. -/
def items : Nat → List Char → Except Stop (Taken (List Json))
  | 0, cs => stopAt .noValue cs
  | rounds + 1, cs => do
    let (j, cs) ← value rounds cs
    match skipBlank cs with
    | ']' :: cs => return ([j], cs)
    | ',' :: cs =>
      let (js, cs) ← items rounds (skipBlank cs)
      return (j :: js, cs)
    | cs => stopAt .noComma cs

/-- Reads the members of an object up to its closing brace and adds them to those read before. -/
def memberList : Nat → List (String × Json) → List Char → Except Stop (Taken (List (String × Json)))
  | 0, _, cs => stopAt .noName cs
  | rounds + 1, ms, '"' :: cs => do
    let (name, cs) ← textTail cs
    match skipBlank cs with
    | ':' :: cs =>
      let (j, cs) ← value rounds (skipBlank cs)
      let ms := setMember name j ms
      match skipBlank cs with
      | '\x7d' :: cs => return (ms, cs)
      | ',' :: cs => memberList rounds ms (skipBlank cs)
      | cs => stopAt .noComma cs
    | cs => stopAt .noColon cs
  | _ + 1, _, cs => stopAt .noName cs

end

/-- Reads the one value of a text. -/
def readAll (cs : List Char) : Except Stop Json := do
  if cs.head? = some '\ufeff' then throw ⟨.byteOrderMark, cs.length⟩
  let (j, rest) ← value (2 * cs.length + 2) (skipBlank cs)
  match skipBlank rest with
  | [] => return j
  | rest => throw ⟨.extraData, rest.length⟩

/-! ## Faults -/

/-- A fault: its cause and its place, counted in characters from zero. -/
structure Fault where
  cause : Cause
  offset : Nat
  before : List Char
  deriving DecidableEq, Repr

/-- The line of a fault, counted from one. -/
def Fault.line (f : Fault) : Nat := f.before.count '\n' + 1

/-- The place of a fault in its line, counted from one. -/
def Fault.column (f : Fault) : Nat := (f.before.reverse.takeWhile (· != '\n')).length + 1

/-- A fault as it is shown. -/
def Fault.message (f : Fault) : String :=
  if f.cause.hasPlace then
    f.cause.words ++ ": line " ++ toString f.line ++ " column " ++ toString f.column ++ " (char " ++
      toString f.offset ++ ")"
  else f.cause.words

/-- Reads a text that holds one value. -/
def parse (cs : List Char) : Except Fault Json :=
  (readAll cs).mapError fun s =>
    let offset := cs.length - s.left
    ⟨s.cause, offset, cs.take offset⟩

end Deflatten.Json
