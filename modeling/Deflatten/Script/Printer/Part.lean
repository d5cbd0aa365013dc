import Deflatten.Script.Printer.Refusal
/-!
# Parts of a value

A tree that was built by hand may hold any value in any place. Fields belong to nodes and records, items to lists and
texts, and only a text can be joined to text. A value that lacks what is asked of it is refused by its sort.
-/

namespace Deflatten.Script.Printer

/-- The name of the sort that a value belongs to. -/
def sortOf : Tree → String
  | .node _ _ | .record _ => "Node"
  | .list _ => "list"
  | .scalar .null => "NoneType"
  | .scalar (.bool _) => "bool"
  | .scalar (.number (.int _)) => "int"
  | .scalar (.number (.float _)) => "float"
  | .scalar (.text _) => "str"

/-! ## Fields -/

/-- The value of a field, empty when it is absent. -/
def fieldOf (t : Tree) (name : String) : Printing Tree :=
  match t with
  | .node _ _ | .record _ => .ok (t.get name)
  | _ => .error (.noField (sortOf t) name)

/-- The type of a node; a record has none. -/
def typeOf? (t : Tree) : Printing (Option String) :=
  match t with
  | .node tag _ => .ok (some tag)
  | .record _ => .ok none
  | _ => .error (.noField (sortOf t) "type")

/-- Whether a node or record is of a type. -/
def isOfType (t : Tree) (tag : String) : Printing Bool := return (← typeOf? t) == some tag

/-! ## Items -/

/-- The items of a list, or the characters of a text. -/
def itemsOf (t : Tree) : Printing (List Tree) :=
  match t with
  | .list ts => .ok ts
  | .scalar (.text s) => .ok (s.toList.map fun c => .text (String.singleton c))
  | _ => .error (.noLength (sortOf t))

/-- The item at a place in a list or text. -/
def itemAt (t : Tree) (i : Nat) : Printing Tree :=
  match itemsOf t with
  | .ok ts =>
    match ts[i]? with
    | some item => .ok item
    | none => .error (.noSuchItem (sortOf t))
  | .error _ => .error (.noItems (sortOf t))

/-! ## Text -/

/-- A value that is joined to the text before it. -/
def joinedAfter (t : Tree) : Printing String :=
  match t with
  | .scalar (.text s) => .ok s
  | _ => .error (.notJoinedAfter (sortOf t))

/-- A value that is joined to the text behind it. -/
def joinedBefore (t : Tree) : Printing String :=
  match t with
  | .scalar (.text s) => .ok s
  | _ => .error (.notJoinedBefore (sortOf t))

end Deflatten.Script.Printer
