import Deflatten.Json.Basic
import Deflatten.Text.Surrogate
/-!
# Writing JSON

Every item and every member stands on a line of its own, two spaces deeper than its brackets; empty brackets stay
together. Text beyond ASCII is written as it is or escaped as units of sixteen bits. A value with an integer of too many
digits has a text, but it is not written (`write?`).
-/

namespace Deflatten.Json

/-- The escape of one unit of sixteen bits. -/
def unitEscape (unit : Nat) : String :=
  let digits := Nat.toDigits 16 unit
  "\\u" ++ String.ofList (List.replicate (4 - digits.length) '0' ++ digits)

/-- A character that is escaped as one or two units. -/
def escapeAsUnits (c : Char) : String :=
  let n := Surrogate.codePoint c
  if n ≤ 0xffff then unitEscape n
  else unitEscape (0xd800 + (n - 0x10000) / 0x400) ++ unitEscape (0xdc00 + (n - 0x10000) % 0x400)

/-- A character within quotes. -/
def piece (asciiOnly : Bool) (c : Char) : String :=
  match c with
  | '"' => "\\\""
  | '\\' => "\\\\"
  | '\n' => "\\n"
  | '\r' => "\\r"
  | '\t' => "\\t"
  | '\x08' => "\\b"
  | '\x0c' => "\\f"
  | c => if c.toNat < 0x20 || (asciiOnly && 0x7e < c.toNat) then escapeAsUnits c else String.singleton c

/-- Text in quotes. -/
def quoted (asciiOnly : Bool) (s : String) : String :=
  "\"" ++ String.join (s.toList.map (piece asciiOnly)) ++ "\""

/-- A number; the numbers beyond all numbers have names. -/
def numberText : Number → String
  | .float .nan => "NaN"
  | .float (.infinity negative) => if negative then "-Infinity" else "Infinity"
  | n => n.text

/-- The start of a line at a depth. -/
def lineAt (depth : Nat) : String := "\n" ++ String.ofList (List.replicate (2 * depth) ' ')

mutual

/-- A value at a depth. -/
def writeAt (asciiOnly : Bool) (depth : Nat) : Json → String
  | .null => "null"
  | .bool b => if b then "true" else "false"
  | .number n => numberText n
  | .text s => quoted asciiOnly s
  | .list [] => "[]"
  | .list (j :: js) =>
    "[" ++ lineAt (depth + 1) ++ writeAt asciiOnly (depth + 1) j ++ writeItems asciiOnly (depth + 1) js ++
      lineAt depth ++ "]"
  | .object [] => "\x7b\x7d"
  | .object (m :: ms) =>
    "\x7b" ++ lineAt (depth + 1) ++ writeMember asciiOnly (depth + 1) m ++ writeMembers asciiOnly (depth + 1) ms ++
      lineAt depth ++ "\x7d"

/-- The items after the first, each after a comma. -/
def writeItems (asciiOnly : Bool) (depth : Nat) : List Json → String
  | [] => ""
  | j :: js => "," ++ lineAt depth ++ writeAt asciiOnly depth j ++ writeItems asciiOnly depth js

/-- A member: its name and its value. -/
def writeMember (asciiOnly : Bool) (depth : Nat) : String × Json → String
  | (name, value) => quoted asciiOnly name ++ ": " ++ writeAt asciiOnly depth value

/-- The members after the first, each after a comma. -/
def writeMembers (asciiOnly : Bool) (depth : Nat) : List (String × Json) → String
  | [] => ""
  | m :: ms => "," ++ lineAt depth ++ writeMember asciiOnly depth m ++ writeMembers asciiOnly depth ms

end

/-- Writes a value, with all the digits of its numbers. -/
def write (asciiOnly : Bool) (j : Json) : String := writeAt asciiOnly 0 j

/-- Writes a value, unless a number in it has too many digits. -/
def write? (asciiOnly : Bool) (j : Json) : Option String :=
  if j.numbers.all Number.isWritable then some (j.write asciiOnly) else none

end Deflatten.Json
