/-!
# Paths

A path is a root and a list of names. Reading drops empty names and single dots and keeps double dots; exactly two
leading slashes are a root of their own. `Path.stem` is the last name without its last extension.
-/

namespace Deflatten

/-- Where a path starts. -/
inductive Root where
  | here
  | slash
  | doubleSlash
  deriving DecidableEq, Repr

/-- A path. -/
structure Path where
  root : Root
  names : List String
  deriving DecidableEq, Repr

namespace Path

instance : Inhabited Path := ⟨⟨.here, []⟩⟩

/-- The text before each slash and after the last one. -/
def pieces : List Char → List (List Char)
  | [] => [[]]
  | c :: cs =>
    if c = '/' then [] :: pieces cs
    else match pieces cs with
      | [] => [[c]]
      | w :: ws => (c :: w) :: ws

/-- The root of a text. -/
def rootOf : List Char → Root
  | '/' :: '/' :: '/' :: _ => .slash
  | '/' :: '/' :: _ => .doubleSlash
  | '/' :: _ => .slash
  | _ => .here

/-- Whether a piece is a name. -/
def isName (w : List Char) : Bool := !w.isEmpty && w != ['.']

/-- Reads a path. -/
def ofText (s : String) : Path := ⟨rootOf s.toList, ((pieces s.toList).filter isName).map String.ofList⟩

/-- A root as text. -/
def rootText : Root → String
  | .here => ""
  | .slash => "/"
  | .doubleSlash => "//"

/-- A path as text; the path that leads nowhere is a dot. -/
def text (p : Path) : String :=
  if p.root = .here ∧ p.names = [] then "." else rootText p.root ++ "/".intercalate p.names

/-- The path without its last name. -/
def parent (p : Path) : Path := { p with names := p.names.dropLast }

/-- The path of a name below another. -/
def child (p : Path) (name : String) : Path := { p with names := p.names ++ [name] }

/-- The last name. -/
def name (p : Path) : String := p.names.getLast?.getD ""

/-- The part before the last dot; `none` without a dot. -/
def beforeLastDot : List Char → Option (List Char)
  | [] => none
  | c :: cs =>
    match beforeLastDot cs with
    | some w => some (c :: w)
    | none => if c = '.' then some [] else none

/-- A name without its last extension. A dot at either end begins no extension. -/
def stemOf (w : List Char) : List Char :=
  match beforeLastDot w with
  | none | some [] => w
  | some s => if s.length + 1 = w.length then w else s

/-- The last name without its last extension. -/
def stem (p : Path) : String := String.ofList (stemOf p.name.toList)

@[simp] theorem parent_child (p : Path) (name : String) : (p.child name).parent = p := by
  simp [parent, child]

@[simp] theorem name_child (p : Path) (name : String) : (p.child name).name = name := by
  simp [Path.name, child]

end Path
end Deflatten
