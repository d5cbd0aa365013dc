import Deflatten.Script.Printer.Check
import Deflatten.Script.Printer.Layout
/-!
# Expressions as text

An expression is printed at a level of indentation and at the request of what stands around it. Parts are printed by
way of `Printers`, whose depth bounds the nesting.
-/

namespace Deflatten.Script.Printer

/-- How the parts of a node are printed, at a level of indentation. Statements are told whether `in` may stand in
them. -/
structure Printers where
  expression : Nat → Ask → Tree → Printing String
  statement : Nat → Bool → Tree → Printing String

/-! ## Functions and classes -/

/-- A body after a head: a block on the same line, the empty statement right behind, anything else on a line of its
own. -/
def attached (p : Printers) (level : Nat) (t : Tree) : Printing String := do
  match ← typeOf? t with
  | some "BlockStatement" => return " " ++ (← p.statement level true t)
  | some "EmptyStatement" => return ";"
  | _ => return newLine (level + 1) ++ (← p.statement (level + 1) true t)

/-- Statements on lines of their own in braces. -/
def bracedText (p : Printers) (level : Nat) (body : List Tree) : Printing String := do
  let texts ← body.mapM fun t => return pad (level + 1) ++ (← p.statement (level + 1) true t) ++ "\n"
  return "\x7b\n" ++ String.join texts ++ pad level ++ "\x7d"

/-- A value assigned to a target. -/
def assignedText (p : Printers) (level : Nat) (a : Ask) (left operator right : Tree) : Printing String := do
  let part (least : Nat) := p.expression level (a.inner Precedence.assignment least)
  let left ← part Precedence.call left
  let operator ← joinedAfter operator
  let right ← part Precedence.assignment right
  return a.enclose Precedence.assignment (left ++ " " ++ operator ++ " " ++ right)

/-- The sign of a value that is assigned, or given by default. -/
def assignSign : Tree := .text "="

/-- A name or a pattern. -/
def targetPattern (p : Printers) (level : Nat) (t : Tree) : Printing String := do
  if ← isOfType t Tag.name then nameText t else p.expression level (asking Precedence.assignment) t

/-- Items in parentheses. -/
def argumentList (p : Printers) (level : Nat) (ts : List Tree) : Printing String := do
  return parenthesised (commas (← ts.mapM (p.expression level (asking Precedence.assignment))))

/-- Parameters, some of which may have defaults in a list of their own. -/
def parameterTexts (p : Printers) (level : Nat) : List Tree → List Tree → Printing (List String)
  | [], _ => return []
  | q :: qs, defaults => do
    let value := defaults.head?.getD .null
    let text ←
      if value.isSet then assignedText p level (asking Precedence.assignment) q assignSign value
      else targetPattern p level q
    return text :: (← parameterTexts p level qs defaults.tail)

/-- Whether a function is an arrow function. -/
def isArrow (t : Tree) : Bool := t.hasTag "ArrowFunctionExpression"

/-- Whether a function works asynchronously. -/
def isAsync (t : Tree) : Bool := (t.get "async").isSet || (t.get "isAsync").isSet

/-- The parameters of a function in parentheses. An arrow function needs none around a single name. -/
def parametersText (p : Printers) (level : Nat) (t : Tree) : Printing String := do
  let hasMore := (t.get "rest").isSet || (t.get "defaults").isSet
  let ps ← itemsOf (t.get "params")
  let single ←
    match ps with
    | [q] => if isArrow t && !hasMore then pure ((← isOfType q Tag.name), q) else pure (false, q)
    | _ => pure (false, .null)
  if single.1 then nameText single.2
  else
    let defaults ← if (t.get "defaults").isSet then itemsOf (t.get "defaults") else pure []
    let texts ← parameterTexts p level ps defaults
    let rest ← if (t.get "rest").isSet then do pure ["..." ++ (← nameText (t.get "rest"))] else pure []
    return parenthesised (commas (texts ++ rest))

/-- The parameters and body of a function. A body that is an expression and begins with a brace is put in
parentheses. -/
def functionRest (p : Printers) (level : Nat) (t : Tree) : Printing String := do
  let ps ← parametersText p level t
  let head := if isArrow t then (if isAsync t then "async " else "") ++ ps ++ " =>" else ps
  if (t.get "expression").isSet then
    let s ← p.expression level (asking Precedence.assignment) (t.get "body")
    return head ++ " " ++ if firstChar? s == some '\x7b' then parenthesised s else s
  else return head ++ (← attached p level (t.get "body"))

/-- A name where one stands, nothing where none does. -/
def optionalName (t : Tree) : Printing String := if t.isAbsent then .ok "" else nameText t

/-- A function that is not an arrow function. -/
def functionText (p : Printers) (level : Nat) (t : Tree) : Printing String := do
  let name ← optionalName (t.get "id")
  let word := if (t.get "generator").isSet then "function* " else "function "
  return (if isAsync t then "async " else "") ++ word ++ name ++ (← functionRest p level t)

/-- A class. -/
def classText (p : Printers) (level : Nat) (t : Tree) : Printing String := do
  let id := t.get "id"
  let name ← if id.isAbsent then pure "" else p.expression level (asking Precedence.sequence) id
  let superClass := t.get "superClass"
  let heritage ← if superClass.isAbsent then pure "" else p.expression level (asking Precedence.unary) superClass
  let head := join (join "class" name) (if superClass.isAbsent then "" else join "extends" heritage)
  return head ++ " " ++ (← p.statement level true (t.get "body"))

/-! ## Properties and members of classes -/

/-- The key of a property. -/
def keyText (p : Printers) (level : Nat) (t : Tree) : Printing String := do
  let key ← p.expression level (asking Precedence.assignment) (t.get "key")
  return if (t.get "computed").isSet then "[" ++ key ++ "]" else key

/-- The marks before the key of a method. -/
def methodMarks (function : Tree) : String :=
  (if isAsync function then "async " else "") ++ (if (function.get "generator").isSet then "*" else "")

/-- Whether a property is a getter or a setter. -/
def accessor? (t : Tree) : Option String :=
  (t.get "kind").text?.filter fun kind => kind == "get" || kind == "set"

/-- A method, a getter or a setter. -/
def methodText (p : Printers) (level : Nat) (t : Tree) : Printing String := do
  let marks := match accessor? t with
    | some kind => kind ++ " "
    | none => methodMarks (t.get "value")
  return marks ++ (← keyText p level t) ++ (← functionRest p level (t.get "value"))

/-- A field of a class. -/
def memberFieldText (p : Printers) (level : Nat) (t : Tree) : Printing String := do
  let key ← keyText p level t
  let value := t.get "value"
  let text ←
    if value.isNull then pure key
    else do pure (key ++ " = " ++ (← p.expression level (asking Precedence.assignment) value))
  return (if (t.get "static").isSet then "static " else "") ++ text ++ ";"

/-- A property of an object literal or pattern. -/
def propertyText (p : Printers) (level : Nat) (t : Tree) : Printing String := do
  let value := t.get "value"
  if (accessor? t).isSome then methodText p level t
  else if (t.get "shorthand").isSet then
    if value.hasTag "AssignmentPattern" then
      assignedText p level (asking Precedence.sequence) (value.get "left") assignSign (value.get "right")
    else keyText p level t
  else if (t.get "method").isSet then methodText p level t
  else return (← keyText p level t) ++ ": " ++ (← p.expression level (asking Precedence.assignment) value)

/-! ## Array and object literals -/

/-- One element of an array; a hole is empty. -/
def elementText (p : Printers) (level : Nat) (t : Tree) : Printing String :=
  if t.isAbsent then .ok "" else p.expression level (asking Precedence.assignment) t

/-- An array literal or pattern. A literal of two or more elements has one on each line. A hole at the end needs a
comma of its own. -/
def arrayText (p : Printers) (level : Nat) (t : Tree) (isPattern : Bool) : Printing String := do
  let elements := (t.get "elements").items
  let texts ← elements.mapM (elementText p (level + 1))
  let extra := if elements.getLast?.any Tree.isAbsent then "," else ""
  match texts with
  | [] => return "[]"
  | [s] => return "[" ++ s ++ extra ++ "]"
  | _ =>
    if isPattern then return "[" ++ commas texts ++ extra ++ "]"
    else return "[" ++ stacked level (texts.dropLast ++ [texts.getLast?.getD "" ++ extra]) "]"

/-- An object literal. A single property stands on the line of the braces if it takes no more than one. -/
def objectText (p : Printers) (level : Nat) (t : Tree) : Printing String := do
  let texts ← (t.get "properties").items.mapM (p.expression (level + 1) (asking Precedence.sequence))
  match texts with
  | [] => return "\x7b\x7d"
  | [s] => if hasLineEnd s then return "\x7b" ++ stacked level [s] "\x7d" else return "\x7b " ++ s ++ " \x7d"
  | _ => return "\x7b" ++ stacked level texts "\x7d"

/-- Whether an object pattern takes several lines. -/
def isTallPattern (properties : List Tree) : Printing Bool := do
  match properties with
  | [q] =>
    if ← isOfType q "Property" then return !(← isOfType (q.get "value") Tag.name) else return false
  | _ => properties.anyM fun q => return (← isOfType q "Property") && !(q.get "shorthand").isSet

/-- An object pattern. -/
def objectPatternText (p : Printers) (level : Nat) (t : Tree) : Printing String := do
  let properties := (t.get "properties").items
  let isTall ← isTallPattern properties
  let texts ← properties.mapM (p.expression (level + 1) (asking Precedence.sequence))
  if texts.isEmpty then return "\x7b\x7d"
  else if isTall then return "\x7b" ++ stacked level texts "\x7d"
  else return "\x7b" ++ commas texts ++ "\x7d"

/-! ## Operations -/

/-- An operation on two operands. -/
def binaryText (p : Printers) (level : Nat) (a : Ask) (t : Tree) : Printing String := do
  let operator ← binaryOperator t fun s => (Precedence.binary? s).isSome
  let own := (Precedence.binary? operator).getD 0
  let isPower := operator == "**"
  let a := if operator == "??" && t.hasTag "LogicalExpression" then { a with inCoalesce := true } else a
  let part (least : Nat) := p.expression level (a.inner own least)
  let left ← part (if isPower then Precedence.postfixed else own) (t.get "left")
  let right ← part (if isPower then own else own + 1) (t.get "right")
  let text := join (join left operator) right
  let isBare := own < a.least
  if operator == "in" && !(a.allowIn || isBare) then return parenthesised text
  else if (operator == "||" || operator == "&&") && a.inCoalesce then return parenthesised text
  else return a.enclose own text

/-- Whether an operator right before its operand would be read as one token with the character that comes first. -/
def runsInto (operator argument : String) : Bool :=
  match lastChar? operator, firstChar? argument with
  | some l, some r =>
    ((l == '+' || l == '-') && l == r) || (Names.isWrittenPart l.toNat && Names.isWrittenPart r.toNat)
  | _, _ => false

/-- An operation on one operand. A longer operator is a word. -/
def unaryText (p : Printers) (level : Nat) (a : Ask) (t : Tree) : Printing String := do
  let argument ← p.expression level (asking Precedence.unary) (t.get "argument")
  let isWord := (← itemsOf (t.get "operator")).length > 2
  let operator ← joinedAfter (t.get "operator")
  let text :=
    if isWord then join operator argument
    else if runsInto operator argument then operator ++ " " ++ argument
    else operator ++ argument
  return a.enclose Precedence.unary text

/-- An operation that changes its operand; the operator touches it. -/
def updateText (p : Printers) (level : Nat) (a : Ask) (t : Tree) : Printing String := do
  if (t.get "prefix").isSet then
    let argument ← p.expression level (asking Precedence.unary) (t.get "argument")
    return a.enclose Precedence.unary ((← joinedAfter (t.get "operator")) ++ argument)
  else
    let argument ← p.expression level (asking Precedence.postfixed) (t.get "argument")
    return a.enclose Precedence.postfixed (keptTogether argument ++ (← joinedAfter (t.get "operator")))

/-- A sequence. -/
def sequenceText (p : Printers) (level : Nat) (a : Ask) (t : Tree) : Printing String := do
  let texts ← (t.get "expressions").items.mapM
    (p.expression level (a.inner Precedence.sequence Precedence.assignment))
  return a.enclose Precedence.sequence (commas texts)

/-- A conditional. -/
def conditionalText (p : Printers) (level : Nat) (a : Ask) (t : Tree) : Printing String := do
  let part (least : Nat) := p.expression level (a.inner Precedence.conditional least)
  let test ← part Precedence.coalesce (t.get "test")
  let consequent ← part Precedence.assignment (t.get "consequent")
  let alternate ← part Precedence.assignment (t.get "alternate")
  return a.enclose Precedence.conditional (test ++ " ? " ++ consequent ++ " : " ++ alternate)

/-- A `yield`. -/
def yieldText (p : Printers) (level : Nat) (a : Ask) (t : Tree) : Printing String := do
  let word := if (t.get "delegate").isSet then "yield*" else "yield"
  let argument := t.get "argument"
  let text ←
    if argument.isAbsent then pure word
    else do pure (join word (keptTogether (← p.expression level (asking Precedence.assignment) argument)))
  return a.enclose Precedence.assignment text

/-- An `await`. -/
def awaitText (p : Printers) (level : Nat) (a : Ask) (t : Tree) : Printing String := do
  let word := if (t.get "all").isSet then "await*" else "await"
  return a.enclose Precedence.unary
    (join word (← p.expression level (asking Precedence.unary) (t.get "argument")))

/-! ## Calls, members and templates -/

/-- The arguments of a call. -/
def argumentsText (p : Printers) (level : Nat) (t : Tree) : Printing String :=
  argumentList p level (t.get "arguments").items

/-- A call. Within the callee of `new` it is put in parentheses. -/
def callText (p : Printers) (level : Nat) (a : Ask) (t : Tree) : Printing String := do
  let callee ← p.expression level (asking Precedence.call) (t.get "callee")
  let text := callee ++ (if (t.get "optional").isSet then "?." else "") ++ (← argumentsText p level t)
  return if a.allowCall then a.enclose Precedence.call text else parenthesised text

/-- A `new`. -/
def newText (p : Printers) (level : Nat) (a : Ask) (t : Tree) : Printing String := do
  let callee ← p.expression level { least := Precedence.new, allowCall := false } (t.get "callee")
  return a.enclose Precedence.new (join "new" callee ++ (← argumentsText p level t))

/-- Whether a point right after a text would be read as part of a number. -/
def takesPoint (object : Tree) (s : String) : Bool :=
  match object.get "value" with
  | .scalar (.number _) =>
    object.hasTag Tag.literal && !s.any ['.', 'e', 'E', 'x', 'X'].contains && (lastChar? s).any Char.isDigit &&
      !(2 ≤ s.length && firstChar? s == some '0')
  | _ => false

/-- A member. -/
def memberText (p : Printers) (level : Nat) (a : Ask) (t : Tree) : Printing String := do
  let object ← p.expression level { least := Precedence.call, allowCall := a.allowCall } (t.get "object")
  let isOptional := (t.get "optional").isSet
  let text ←
    if (t.get "computed").isSet then do
      let property ←
        p.expression level { least := Precedence.sequence, allowCall := a.allowCall } (t.get "property")
      pure (object ++ (if isOptional then "?." else "") ++ "[" ++ property ++ "]")
    else do
      let point := if isOptional then "?." else if takesPoint (t.get "object") object then " ." else "."
      pure (object ++ point ++ (← memberNameText (t.get "property")))
  return a.enclose Precedence.member text

/-- Calls and members, some of which may be left out. -/
def chainText (p : Printers) (level : Nat) (a : Ask) (t : Tree) : Printing String := do
  let own := Precedence.optionalChain
  let allowCall := a.allowCall || own < a.least
  let text ← p.expression level { a with least := own, allowCall } (t.get "expression")
  return a.enclose own text

/-- The text of a piece of a template, as it was written. -/
def pieceText (t : Tree) : Printing String := do joinedAfter (← fieldOf (t.get "value") "raw")

/-- The pieces of a template with its values between them; the first of the pieces is followed by the value at a
place. -/
def templateBody (p : Printers) (level : Nat) (values : Tree) (place : Nat) : List Tree → Printing String
  | [] => return ""
  | piece :: pieces => do
    let text ← p.expression level (asking Precedence.primary) piece
    if pieces.isEmpty then return text
    else
      let value ← p.expression level (asking Precedence.sequence) (← itemAt values place)
      return text ++ "$\x7b " ++ value ++ " \x7d" ++ (← templateBody p level values (place + 1) pieces)

/-- A template. -/
def templateText (p : Printers) (level : Nat) (t : Tree) : Printing String := do
  let pieces ← itemsOf (t.get "quasis")
  return "\u0060" ++ (← templateBody p level (t.get "expressions") 0 pieces) ++ "\u0060"

/-- A tagged template. -/
def taggedText (p : Printers) (level : Nat) (a : Ask) (t : Tree) : Printing String := do
  let tag ← p.expression level { least := Precedence.call, allowCall := a.allowCall } (t.get "tag")
  let quasi ←
    p.expression level { least := Precedence.primary, allowIn := false, allowCall := false } (t.get "quasi")
  return a.enclose Precedence.tagged (tag ++ quasi)

/-- A part of a word of two parts, which may be given as a text. -/
def wordPart (t : Tree) : Printing String :=
  match t.text? with
  | some s => .ok s
  | none => nameText t

/-- An import that is an expression. -/
def importCall (p : Printers) (level : Nat) (a : Ask) (t : Tree) : Printing String := do
  let options := t.get "options"
  let arguments := t.get "source" :: if options.isSet then [options] else []
  return a.enclose Precedence.call ("import" ++ (← argumentList p level arguments))

/-- A literal. A number with a minus sign is an operation. -/
def literalExpression (a : Ask) (t : Tree) : Printing String := do
  let text ← literalText t
  let hasSign := (literalNumber? t).any isSigned && firstChar? text == some '-'
  return if hasSign then a.enclose Precedence.unary text else text

/-- The one of two values that says something, the first if both do. -/
def eitherOf (t u : Tree) : Tree := if t.isSet then t else u

/-- A name imported or exported under another one, or under its own. -/
def renamed (p : Printers) (level : Nat) (own other : Tree) : Printing String := do
  let s ← p.expression level (asking Precedence.sequence) own
  if other.isAbsent then return s
  else
    let r ← p.expression level (asking Precedence.sequence) other
    return if s == r then s else s ++ " as " ++ r

/-- All names of a module, under one name if it has one. -/
def namespaceText (name : Tree) : Printing String := do
  if name.isAbsent then return "*" else return "* as " ++ (← nameText name)

/-! ## All expressions -/

/-- The types of expressions, and of parts that are printed like expressions. -/
def expressionTags : List String := [
  "Identifier", "PrivateIdentifier", "Literal", "ThisExpression", "Super", "ArrayExpression", "ArrayPattern",
  "ObjectExpression", "ObjectPattern", "Property", "MethodDefinition", "PropertyDefinition", "FieldDefinition",
  "StaticBlock", "FunctionExpression", "ArrowFunctionExpression", "ClassExpression", "TemplateElement",
  "TemplateLiteral", "TaggedTemplateExpression", "MemberExpression", "MetaProperty", "CallExpression",
  "NewExpression", "ChainExpression", "ImportExpression", "SpreadElement", "RestElement", "UpdateExpression",
  "UnaryExpression", "AwaitExpression", "YieldExpression", "BinaryExpression", "LogicalExpression",
  "ConditionalExpression", "AssignmentExpression", "AssignmentPattern", "SequenceExpression",
  "ImportDefaultSpecifier", "ImportNamespaceSpecifier", "ImportSpecifier", "ExportSpecifier"]

/-- An expression. -/
def expression (p : Printers) (level : Nat) (a : Ask) (t : Tree) : Printing String := do
  checkNode t
  match t.tag?.getD "" with
  | "Identifier" | "PrivateIdentifier" => memberNameText t
  | "Literal" => literalExpression a t
  | "ThisExpression" => return "this"
  | "Super" => return "super"
  | "ArrayExpression" => arrayText p level t false
  | "ArrayPattern" => arrayText p level t true
  | "ObjectExpression" => objectText p level t
  | "ObjectPattern" => objectPatternText p level t
  | "Property" => propertyText p level t
  | "MethodDefinition" =>
    return join (if (t.get "static").isSet then "static " else "") (← methodText p level t)
  | "PropertyDefinition" | "FieldDefinition" => memberFieldText p level t
  | "StaticBlock" => return "static " ++ (← bracedText p level (t.get "body").items)
  | "FunctionExpression" => functionText p level t
  | "ArrowFunctionExpression" => return a.enclose Precedence.conditional (← functionRest p level t)
  | "ClassExpression" => classText p level t
  | "TemplateElement" => pieceText t
  | "TemplateLiteral" => templateText p level t
  | "TaggedTemplateExpression" => taggedText p level a t
  | "MemberExpression" => memberText p level a t
  | "MetaProperty" =>
    return a.enclose Precedence.member ((← wordPart (t.get "meta")) ++ "." ++ (← wordPart (t.get "property")))
  | "CallExpression" => callText p level a t
  | "NewExpression" => newText p level a t
  | "ChainExpression" => chainText p level a t
  | "ImportExpression" => importCall p level a t
  | "SpreadElement" => return "..." ++ (← p.expression level (asking Precedence.assignment) (t.get "argument"))
  | "RestElement" => return "..." ++ (← p.expression level (asking a.least) (t.get "argument"))
  | "UpdateExpression" => updateText p level a t
  | "UnaryExpression" => unaryText p level a t
  | "AwaitExpression" => awaitText p level a t
  | "YieldExpression" => yieldText p level a t
  | "BinaryExpression" | "LogicalExpression" => binaryText p level a t
  | "ConditionalExpression" => conditionalText p level a t
  | "AssignmentExpression" => assignedText p level a (t.get "left") (t.get "operator") (t.get "right")
  | "AssignmentPattern" => assignedText p level a (t.get "left") assignSign (t.get "right")
  | "SequenceExpression" => sequenceText p level a t
  | "ImportDefaultSpecifier" => nameText (eitherOf (t.get "id") (t.get "local"))
  | "ImportNamespaceSpecifier" => namespaceText (eitherOf (t.get "id") (t.get "local"))
  | "ImportSpecifier" => renamed p level (t.get "imported") (t.get "local")
  | "ExportSpecifier" => renamed p level (t.get "local") (t.get "exported")
  | tag => throw (.unsupportedExpression tag)

end Deflatten.Script.Printer
