/-!
# Tables of names

A table of names is a text of entries with semicolons or line ends between them, in the order of the characters. An
entry such as `@20` tells the code point of the next name in hexadecimal digits. Any other entry is a name: its first
digit tells how many words it shares with the name before it, and the other words follow.
-/

namespace Deflatten.CharacterNames

/-- The value of a capital hexadecimal digit. -/
def hexDigit? (c : Char) : Option Nat :=
  if '0' ≤ c ∧ c ≤ '9' then some (c.toNat - '0'.toNat)
  else if 'A' ≤ c ∧ c ≤ 'F' then some (c.toNat - 'A'.toNat + 10)
  else none

/-- The number that capital hexadecimal digits write. -/
def hexadecimal? (cs : List Char) : Option Nat :=
  cs.foldlM (fun n c => (hexDigit? c).map (16 * n + ·)) 0

/-- The code point that has a name, given as its words, among the entries of a table. `next` is the code point of the
first entry and `before` are the words of the name before it. -/
def find? (name : List String) : Nat → List String → List String → Option Nat
  | _, _, [] => none
  | next, before, entry :: entries =>
    match entry.toList with
    | '@' :: digits => find? name ((hexadecimal? digits).getD 0) before entries
    | shared :: rest =>
      let words := before.take (shared.toNat - '0'.toNat) ++ (String.ofList rest).splitOn " "
      if words = name then some next else find? name (next + 1) words entries
    | [] => none

/-- The entries of a table. -/
def entries (table : String) : List String := (table.splitOn "\n").flatMap (·.splitOn ";")

/-- The code point that has a name in a table. -/
def search (name table : String) : Option Nat := find? (name.splitOn " ") 0 [] (entries table)

end Deflatten.CharacterNames
