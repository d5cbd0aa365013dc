import Deflatten.Tree.Walk
/-!
# Nodes

How the reader builds nodes whose form depends on more than their type.
-/

namespace Deflatten.Script.Build

/-- A name. -/
def name (s : String) : Tree := .node Tag.name [("name", .text s)]

/-- A literal. -/
def literal (value : Scalar) : Tree := .node Tag.literal [("value", .scalar value)]

/-- A node, or nothing. -/
def optional (t : Option Tree) : Tree := t.getD .null

/-- An operation on two operands; `&&` and `||` are operations of their own kind. -/
def operation (operator : String) (left right : Tree) : Tree :=
  let tag := if operator == "&&" || operator == "||" then "LogicalExpression" else Tag.binary
  .node tag [("operator", .text operator), ("left", left), ("right", right)]

/-- A member named after a point, or computed in brackets. -/
def member (object property : Tree) (computed : Bool) : Tree :=
  .node "MemberExpression" [("computed", .bool computed), ("object", object), ("property", property)]

/-- A property of an object literal or pattern. -/
def property (kind : String) (key : Tree) (computed : Bool) (value : Tree) (method shorthand : Bool) : Tree :=
  .node "Property" [("key", key), ("computed", .bool computed), ("value", value), ("kind", .text kind),
    ("method", .bool method), ("shorthand", .bool shorthand)]

/-- A pattern with a default. -/
def withDefault (left right : Tree) : Tree := .node "AssignmentPattern" [("left", left), ("right", right)]

/-- What stands in parentheses before an arrow. -/
def arrowHead (parameters : List Tree) (isAsync : Bool) : Tree :=
  .node "ArrowParameterPlaceHolder" [("params", .list parameters), ("async", .bool isAsync)]

/-- A function of a type. -/
def function (tag : String) (id : Option Tree) (parameters : List Tree) (body : Tree) (isGenerator isAsync : Bool) :
    Tree :=
  .node tag [("id", optional id), ("params", .list parameters), ("body", body), ("generator", .bool isGenerator),
    ("async", .bool isAsync)]

/-- A declaration of variables. -/
def declaration (kind : String) (declarations : List Tree) : Tree :=
  .node "VariableDeclaration" [("declarations", .list declarations), ("kind", .text kind)]

/-- A block. -/
def block (body : List Tree) : Tree := .node Tag.block [("body", .list body)]

/-- The empty statement. -/
def empty : Tree := .node "EmptyStatement" []

/-- An expression as a statement. -/
def expression (t : Tree) : Tree := .node "ExpressionStatement" [("expression", t)]

/-! ## From a literal to a pattern -/

/-- The type that an expression has as a pattern; `none` if it stays what it is. A property of an object literal keeps
its type and has a pattern for its value. -/
def patternTag? : String → Option String
  | "SpreadElement" => some "RestElement"
  | "ArrayExpression" => some "ArrayPattern"
  | "ObjectExpression" => some "ObjectPattern"
  | "AssignmentExpression" => some "AssignmentPattern"
  | "Property" => some "Property"
  | _ => none

/-- Whether a field of an expression holds patterns once the expression is one. -/
def isPatternField (tag field : String) : Bool :=
  [("SpreadElement", "argument"), ("ArrayExpression", "elements"), ("ObjectExpression", "properties"),
    ("AssignmentExpression", "left"), ("Property", "value")].contains (tag, field)

mutual

/-- An expression as a pattern. -/
def pattern : Tree → Tree
  | .node tag fs =>
    match patternTag? tag with
    | some newTag => .node newTag (patternFields tag fs)
    | none => .node tag fs
  | .list ts => .list (patternItems ts)
  | t => t

/-- The fields of an expression as those of a pattern; a pattern has no operator. -/
def patternFields (tag : String) : List (String × Tree) → List (String × Tree)
  | [] => []
  | (field, value) :: fs =>
    if field == "operator" then patternFields tag fs
    else (field, if isPatternField tag field then pattern value else value) :: patternFields tag fs

/-- Items as patterns. -/
def patternItems : List Tree → List Tree
  | [] => []
  | t :: ts => pattern t :: patternItems ts

end

end Deflatten.Script.Build
