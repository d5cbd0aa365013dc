import Deflatten.Script.Printer.Part
import Deflatten.Script.Printer.Value
import Deflatten.Tree.Walk
/-!
# What a node must hold

Before any part of a node is printed its own fields are checked, in order.
-/

namespace Deflatten.Script.Printer

/-- What a field of a node must hold. -/
inductive Demand where
  | node
  | list
  | items
  deriving DecidableEq, Repr

/-- The fields of a node of some type that must hold a node. -/
def nodeFields (tag : String) : List String :=
  match tag with
  | "ExpressionStatement" | "ChainExpression" => ["expression"]
  | "IfStatement" => ["test", "consequent"]
  | "ConditionalExpression" => ["test", "consequent", "alternate"]
  | "WhileStatement" => ["test", "body"]
  | "DoWhileStatement" => ["body", "test"]
  | "WithStatement" => ["object", "body"]
  | "FunctionDeclaration" | "FunctionExpression" | "ArrowFunctionExpression" => ["body"]
  | "BinaryExpression" | "LogicalExpression" | "AssignmentExpression" | "AssignmentPattern" => ["left", "right"]
  | "ThrowStatement" | "UnaryExpression" | "UpdateExpression" | "AwaitExpression" | "SpreadElement" | "RestElement" =>
    ["argument"]
  | "CallExpression" | "NewExpression" => ["callee"]
  | "MemberExpression" => ["object", "property"]
  | "Property" | "MethodDefinition" => ["key", "value"]
  | "PropertyDefinition" | "FieldDefinition" => ["key"]
  | "VariableDeclarator" => ["id"]
  | "ImportExpression" | "ImportDeclaration" | "ExportAllDeclaration" => ["source"]
  | "ExportDefaultDeclaration" => ["declaration"]
  | _ => []

/-- The fields of a node of some type that must hold a list. -/
def listFields (tag : String) : List (String × Demand) :=
  match tag with
  | "Program" | "BlockStatement" | "ClassBody" | "StaticBlock" => [("body", .list)]
  | "ArrayExpression" | "ArrayPattern" => [("elements", .list)]
  | "ObjectExpression" | "ObjectPattern" => [("properties", .list)]
  | "SequenceExpression" => [("expressions", .items)]
  | "FunctionDeclaration" | "FunctionExpression" | "ArrowFunctionExpression" => [("params", .list)]
  | "VariableDeclaration" => [("declarations", .items)]
  | "ImportDeclaration" => [("specifiers", .list)]
  | "CallExpression" | "NewExpression" => [("arguments", .list)]
  | "SwitchStatement" => [("cases", .list)]
  | "SwitchCase" => [("consequent", .list)]
  | _ => []

/-- The demands on the fields of a node of some type, lists before nodes. What any other field holds is checked when
it is printed. -/
def demands (tag : String) : List (String × Demand) :=
  listFields tag ++ (nodeFields tag).map fun field => (field, .node)

/-- Checks one field. -/
def checkField (t : Tree) (tag : String) : String × Demand → Printing Unit
  | (field, .node) => if (t.get field).isNode then .ok () else .error (.notNode tag field)
  | (field, .list) =>
    match t.get field with
    | .list _ => .ok ()
    | _ => .error (.notList tag field)
  | (field, .items) =>
    match t.get field with
    | .list [] => .error (.isEmpty tag field)
    | .list _ => .ok ()
    | _ => .error (.notList tag field)

/-- The scalar in a field. -/
def scalarOf (t : Tree) (field : String) : Scalar :=
  match t.get field with
  | .scalar s => s
  | _ => .null

/-- Whether a text is an integer in decimal digits without a sign or needless zeros. -/
def isCanonical (digits : List Char) : Bool :=
  !digits.isEmpty && digits.all Char.isDigit && (digits.head? != some '0' || digits.length == 1)

/-- An integer literal of any size. -/
def bigIntegerText (digits : Tree) : Printing String :=
  match digits.text? with
  | some s => if isCanonical s.toList then .ok (s ++ "n") else .error .bigInteger
  | none => .error .bigInteger

/-- A regular expression literal. -/
def regexLiteralText (regex : Tree) : Printing String := do
  match (← fieldOf regex "flags").text? with
  | some flags =>
    unless flagsAreValid flags.toList do throw .regexFlags
    match (← fieldOf regex "pattern").text? with
    | some pattern => return regexText pattern ++ flags
    | none => throw .regexPattern
  | none => throw .regexFlags

/-- The number that a name in a literal stands for, where no data format has it. -/
def namedNumber? : String → Option Number
  | "Infinity" => some (.float (.infinity false))
  | "-Infinity" => some (.float (.infinity true))
  | "NaN" => some (.float .nan)
  | _ => none

/-- The number that a literal holds, by name or as its value. -/
def literalNumber? (t : Tree) : Option Number :=
  match (t.get "number").text?.bind namedNumber?, t.get "value" with
  | some n, _ => some n
  | none, .scalar (.number n) => some n
  | none, _ => none

/-- The value that a literal holds as such. -/
def valueText : Tree → Printing String
  | .scalar .null => .ok "null"
  | .scalar (.bool b) => .ok (if b then "true" else "false")
  | .scalar (.number n) => numberText n
  | .scalar (.text s) => .ok (stringText s)
  | _ => .error .noValue

/-- The value of a literal: an integer of any size, else a regular expression, else a number by name, else any other
value. Only the first two may do without a value. -/
def literalText (t : Tree) : Printing String :=
  if !(t.get "bigint").isNull then bigIntegerText (t.get "bigint")
  else if !(t.get "regex").isNull then regexLiteralText (t.get "regex")
  else
    match t.field? "value" with
    | none => .error .noValue
    | some value =>
      if (t.get "number").isNull then valueText value
      else
        match (t.get "number").text?.bind namedNumber? with
        | some n => numberText n
        | none => .error .unknownNumber

/-- The text of a name. -/
def nameText (t : Tree) : Printing String := do
  match (← fieldOf t "name").text? with
  | some s => if Names.isWritten s then return s else throw .invalidName
  | none => throw .invalidName

/-- The text of a name of a member, which a sharp sign may make private. -/
def memberNameText (t : Tree) : Printing String := do
  let name ← nameText t
  return if t.hasTag "PrivateIdentifier" then "#" ++ name else name

/-- Checks the operator of a node that has two operands, and gives it. -/
def binaryOperator (t : Tree) (known : String → Bool) : Printing String :=
  match scalarOf t "operator" with
  | .text s => if known s then .ok s else .error (.unknownOperator (.text s))
  | s => .error (.unknownOperator s)

/-- Checks the kind of a declaration that is a statement. -/
def checkKind (t : Tree) : Printing Unit :=
  match scalarOf t "kind" with
  | .text kind =>
    if ["var", "let", "const"].contains kind then .ok ()
    else if ["using", "await using"].contains kind then .error .resourceDeclaration
    else .error (.unknownKind (.text kind))
  | kind => .error (.unknownKind kind)

/-- Checks that a tree is a node and that its fields hold what they must. -/
def checkNode (t : Tree) : Printing Unit :=
  match t.tag? with
  | none => .error .untyped
  | some tag => (demands tag).forM (checkField t tag)

end Deflatten.Script.Printer
