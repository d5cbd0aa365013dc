import Deflatten.Tree.Scalar
/-!
# Syntax trees

A tree is an open document, as ESTree is: a node has a type tag and fields in order, and a field holds a scalar, a
node, a list or a plain record. Nothing is required of a node, so a tree built by hand may lack a field or carry a tag
that no script has. `Tree.children` gives the child nodes in document order, each with the step that leads to it.
-/

namespace Deflatten

/-- A syntax tree, or a part of one. -/
inductive Tree where
  | scalar (value : Scalar)
  | list (items : List Tree)
  | record (fields : List (String × Tree))
  | node (tag : String) (fields : List (String × Tree))
  deriving Repr

/-- The way from a node to a child: a field, and a place where the field holds a list. -/
structure Step where
  field : String
  item : Option Nat
  deriving DecidableEq, Repr

namespace Tree

instance : Inhabited Tree := ⟨.scalar .null⟩

/-- The empty value. -/
def null : Tree := .scalar .null

/-- Text as a value. -/
def text (s : String) : Tree := .scalar (.text s)

/-- A truth value. -/
def bool (b : Bool) : Tree := .scalar (.bool b)

/-- Whether a tree is the empty value. -/
def isNull : Tree → Bool
  | .scalar .null => true
  | _ => false

/-- The type of a node. -/
def tag? : Tree → Option String
  | .node tag _ => some tag
  | _ => none

/-- Whether a tree is a node. -/
def isNode (t : Tree) : Bool := t.tag?.isSome

/-- Whether a tree is a node of a type. -/
def hasTag (t : Tree) (tag : String) : Bool := t.tag? == some tag

/-- The fields of a node or record. -/
def fields : Tree → List (String × Tree)
  | .node _ fs => fs
  | .record fs => fs
  | _ => []

/-- The value of a field that is present. -/
def field? (t : Tree) (name : String) : Option Tree := t.fields.lookup name

/-- The value of a field, empty when it is absent. -/
def get (t : Tree) (name : String) : Tree := (t.field? name).getD null

/-- The items of a list; nothing else has any. -/
def items : Tree → List Tree
  | .list ts => ts
  | _ => []

/-- The text that a tree is. -/
def text? : Tree → Option String
  | .scalar (.text s) => some s
  | _ => none

/-- Whether a value says nothing: it is empty, false or zero. A node or record always says something. -/
def isAbsent : Tree → Bool
  | .scalar .null | .scalar (.bool false) | .scalar (.text "") | .scalar (.number (.int 0)) => true
  | .scalar (.number (.float (.finite _ 0 _))) => true
  | .list [] => true
  | _ => false

/-- Whether a value says something. -/
def isSet (t : Tree) : Bool := !t.isAbsent

/-- Puts a value into a field, at its place if the field is there and at the end if not. -/
def putField (name : String) (value : Tree) : List (String × Tree) → List (String × Tree)
  | [] => [(name, value)]
  | (n, v) :: fs => if n = name then (n, value) :: fs else (n, v) :: putField name value fs

/-- A node with a field set; anything else is left alone. -/
def set (t : Tree) (name : String) (value : Tree) : Tree :=
  match t with
  | .node tag fs => .node tag (putField name value fs)
  | t => t

/-- Fields that hold notes about a node and no children. -/
def isNote (name : String) : Bool :=
  ["type", "loc", "range", "leadingComments", "trailingComments"].contains name

/-- The nodes among the items of a list in a field, counted from `i`. -/
def itemChildren (name : String) : Nat → List Tree → List (Step × Tree)
  | _, [] => []
  | i, t :: ts => if t.isNode then (⟨name, some i⟩, t) :: itemChildren name (i + 1) ts else itemChildren name (i + 1) ts

/-- The nodes that a field's value contributes: itself, or the nodes among its items. -/
def slotChildren (name : String) : Tree → List (Step × Tree)
  | .node tag fs => [(⟨name, none⟩, .node tag fs)]
  | .list ts => itemChildren name 0 ts
  | _ => []

/-- The nodes that fields contribute, in order. -/
def fieldChildren : List (String × Tree) → List (Step × Tree)
  | [] => []
  | (name, value) :: fs => (if isNote name then [] else slotChildren name value) ++ fieldChildren fs

/-- The child nodes of a node in document order. -/
def children : Tree → List (Step × Tree)
  | .node _ fs => fieldChildren fs
  | _ => []

/-! ## Places in a tree -/

/-- The part of a tree that one step leads to. -/
def step? (t : Tree) (s : Step) : Option Tree :=
  match s.item with
  | none => t.field? s.field
  | some i => (t.get s.field).items[i]?

/-- The part of a tree at the end of a path. -/
def at? (t : Tree) : List Step → Option Tree
  | [] => some t
  | s :: p => (t.step? s).bind (·.at? p)

/-- Puts a part in place of the one that a step leads to. -/
def setStep (t : Tree) (s : Step) (part : Tree) : Tree :=
  match s.item with
  | none => t.set s.field part
  | some i => t.set s.field (.list ((t.get s.field).items.set i part))

/-- Changes the part of a tree at the end of a path; a path that leads nowhere changes nothing. -/
def modifyAt (t : Tree) (f : Tree → Tree) : List Step → Tree
  | [] => f t
  | s :: p =>
    match t.step? s with
    | none => t
    | some part => t.setStep s (part.modifyAt f p)

end Tree
end Deflatten
