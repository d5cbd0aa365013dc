import Deflatten.Script.Grammar.Class
/-!
# Primary expressions

Names, literals, templates, array and object literals, functions, classes and what stands in parentheses.
-/

namespace Deflatten.Script.Grammar

/-! ## Looking one token further -/

/-- Whether an asynchronous function is ahead: `async` and `function` on one line. -/
def seesAsyncFunction : Reading Bool := do
  if ← seesName "async" then
    let line := (← get).cursor.line
    let t ← peekNext
    return t.line == line && t.lexeme == .keyword "function"
  else return false

/-- Whether an import written as a call is ahead. -/
def seesImportCall : Reading Bool := do
  if ← seesWord "import" then return (← peekNext).lexeme == .mark "("
  else return false

/-! ## Templates -/

/-- A piece of a template, and whether it is the last. -/
def templatePiece : Reading (Tree × Bool) := do
  match (← lexeme) with
  | .template raw _ tail =>
    skip
    return (.node "TemplateElement" [("value", .record [("raw", .text raw)]), ("tail", .bool tail)], tail)
  | _ => refuse .illegal

/-- A template: pieces of text with expressions between them. -/
def template (p : Productions) : Reading Tree := do
  if let .template _ false _ := ← lexeme then failAt 0 .emptySubstitution
  let (first, closed) ← templatePiece
  let (pieces, values, _) ← repeating ([first], [], closed) fun (pieces, values, closed) => do
    if closed then return none
    let value ← expression p
    let (piece, closed) ← templatePiece
    return some (piece :: pieces, value :: values, closed)
  return .node "TemplateLiteral" [("quasis", .list pieces.reverse), ("expressions", .list values.reverse)]

/-! ## Array and object literals -/

/-- An item with `...` before it. -/
def spread (p : Productions) : Reading Tree := do
  expect "..."
  return .node "SpreadElement" [("argument", ← inherited p.assignment)]

/-- An array literal. -/
def arrayLiteral (p : Productions) : Reading Tree := do
  expect "["
  let elements ← collectUntil "]" do
    if ← sees "," then
      skip
      return .null
    else
      let element ←
        if ← sees "..." then
          let element ← spread p
          unless ← sees "]" do plainValue
          pure element
        else inherited p.assignment
      unless ← sees "]" do expect ","
      return element
  expect "]"
  return .node Tag.array [("elements", .list elements)]

/-- A property after its key, where no word before the key told its kind. `first` is the token that the property
began with. The answer tells also whether the property sets the prototype. -/
def plainProperty (p : Productions) (first : Token) (key : Tree) (computed isAsync hasProto : Bool) :
    Reading (Tree × Bool) := do
  if !isAsync && (← sees ":") then
    let isProto := !computed && isKey key "__proto__"
    if isProto && hasProto then tolerate .repeatedProto
    skip
    return (Build.property "init" key computed (← inherited p.assignment) false false, isProto)
  else if ← sees "(" then
    let value ← if isAsync then asyncMethod p else method p
    return (Build.property "init" key computed value true false, false)
  else
    match first.lexeme with
    | .name s =>
      if ← sees "=" then
        let t := (← get).ahead
        modifyScope fun c => { c with shorthandInit := some t }
        skip
        let right ← isolated p.assignment
        return (Build.property "init" key computed (Build.withDefault (Build.name s) right) false true, false)
      else return (Build.property "init" key computed (Build.name s) false true, false)
    | _ => surprisedBy (← next)

/-- A property of an object literal, and whether it sets the prototype. -/
def objectProperty (p : Productions) (hasProto : Bool) : Reading (Tree × Bool) := do
  let first := (← get).ahead
  let (key, computed, isAsync) ← do
    match first.lexeme with
    | .name s =>
      skip
      let computed ← sees "["
      let isAsync := s == "async" && !(← afterLineBreak) && !(← seesAny [":", "(", "*", ","])
      pure (some (← if isAsync then propertyKey p else pure (Build.name s)), computed, isAsync)
    | .mark "*" =>
      skip
      pure (none, false, false)
    | _ =>
      let computed ← sees "["
      pure (some (← propertyKey p), computed, false)
  let keyFollows := (← lexeme).beginsKey
  if first.lexeme == .name "get" && !isAsync && keyFollows then
    let computed ← sees "["
    let key ← propertyKey p
    modifyScope fun c => { c with allowYield := false }
    return (Build.property "get" key computed (← getter p) false false, false)
  else if first.lexeme == .name "set" && !isAsync && keyFollows then
    let computed ← sees "["
    let key ← propertyKey p
    return (Build.property "set" key computed (← setter p) false false, false)
  else if first.lexeme == .mark "*" && keyFollows then
    let computed ← sees "["
    let key ← propertyKey p
    return (Build.property "init" key computed (← generatorMethod p) true false, false)
  else
    match key with
    | some key => plainProperty p first key computed isAsync hasProto
    | none => surprised

/-- An object literal. -/
def objectLiteral (p : Productions) : Reading Tree := do
  expect "\x7b"
  let (properties, _) ← repeating ([], false) fun (acc, hasProto) => do
    if ← sees "\x7d" then return none
    let (t, isProto) ← if ← sees "..." then pure (← spread p, false) else objectProperty p hasProto
    unless ← sees "\x7d" do expectComma
    return some (t :: acc, hasProto || isProto)
  expect "\x7d"
  return .node "ObjectExpression" [("properties", .list properties.reverse)]

/-! ## Parentheses -/

/-- The arrow that must follow. -/
def needArrow : Reading Unit := do
  unless ← sees "=>" do expect "=>"

/-- A rest parameter as the last thing in parentheses. -/
def lastRest (p : Productions) : Reading Tree := do
  let (t, _) ← restElement p ")" .parameterAfterRest
  expect ")"
  needArrow
  return t

/-- How far a list in parentheses has come. -/
inductive Listed where
  | open (items : List Tree)
  | arrow (head : Tree)

/-- The rest of a list in parentheses after its first item. A comma before the closing parenthesis, or a rest
parameter, makes it the head of an arrow function. -/
def listRest (p : Productions) (first : Tree) : Reading Listed :=
  repeating (.open [first]) fun
    | .arrow _ => return none
    | .open items => do
      if !(← sees ",") then return none
      skip
      if ← sees ")" then
        skip
        return some (.arrow (Build.arrowHead (items.reverse.map Build.pattern) false))
      else if ← sees "..." then
        unless ← askScope Scope.isBinding do surprised
        let rest ← lastRest p
        modifyScope fun c => { c with isBinding := false }
        return some (.arrow (Build.arrowHead ((rest :: items).reverse.map Build.pattern) false))
      else return some (.open ((← inherited p.assignment) :: items))

/-- The closing parenthesis, and an arrow if one follows. -/
def closeGroup (items : List Tree) (value : Tree) : Reading Tree := do
  expect ")"
  let t ←
    if ← sees "=>" then
      if value.hasTag Tag.name && (value.get "name").text? == some "yield" then pure (Build.arrowHead [value] false)
      else
        unless ← askScope Scope.isBinding do surprised
        pure (Build.arrowHead (items.map Build.pattern) false)
    else pure value
  modifyScope fun c => { c with isBinding := false }
  return t

/-- What stands in parentheses: an expression, or the parameters of an arrow function. -/
def group (p : Productions) : Reading Tree := do
  expect "("
  if ← sees ")" then
    skip
    needArrow
    return Build.arrowHead [] false
  else if ← sees "..." then return Build.arrowHead [← lastRest p] false
  else
    modifyScope fun c => { c with isBinding := true }
    let first ← inherited p.assignment
    if ← sees "," then
      modifyScope fun c => { c with isTarget := false }
      match ← listRest p first with
      | .arrow head => return head
      | .open items =>
        let items := items.reverse
        closeGroup items (.node "SequenceExpression" [("expressions", .list items)])
    else closeGroup [first] first

/-! ## Primary expressions -/

/-- A regular expression, read again from the mark that opens it. -/
def regexLiteral : Reading Tree := do
  plainValue
  let s ← get
  let (t, cursor) ← { s.cursor with rest := s.tokenStart.rest }.lexRegex s.mode
  set { s with cursor, ahead := t }
  skip
  match t.lexeme with
  | .regex body flags =>
    return .node Tag.literal
      [("value", .null), ("regex", .record [("pattern", .text body), ("flags", .text flags)])]
  | _ => refuse .illegal

/-- A literal, which has a value of its own. -/
def literalOf (value : Scalar) : Reading Tree := do
  if (← askScope Scope.strict) && (← lexeme).isOctal then tolerateToken (← get).ahead .strictOctal
  plainValue
  skip
  return Build.literal value

/-- An expression that begins with a reserved word. -/
def wordExpression (p : Productions) (word : String) : Reading Tree := do
  let scope ← askScope id
  if !scope.strict && scope.allowYield && word == "yield" then anyName
  else if !scope.strict && word == "let" then
    skip
    return Build.name word
  else
    plainValue
    if word == "function" then functionExpression p
    else if word == "this" then
      skip
      return .node "ThisExpression" []
    else if word == "class" then classExpression p
    else if ← seesImportCall then
      skip
      return .node "Import" []
    else surprisedBy (← next)

/-- A primary expression. -/
def primary (p : Productions) : Reading Tree := do
  match (← lexeme) with
  | .name s =>
    if (← askScope fun c => c.inModule || c.allowAwait) && s == "await" then tolerateSurprise (← get).ahead
    if ← seesAsyncFunction then functionExpression p
    else
      skip
      return Build.name s
  | .number n _ => literalOf (.number n)
  | .string cs _ => literalOf (.text (Surrogate.text cs))
  | .bool b => literalOf (.bool b)
  | .null => literalOf .null
  | .template _ _ _ => template p
  | .mark "(" =>
    modifyScope fun c => { c with isBinding := false }
    inherited (group p)
  | .mark "[" => inherited (arrayLiteral p)
  | .mark "\x7b" => inherited (objectLiteral p)
  | .mark "/" | .mark "/=" => regexLiteral
  | .keyword s => wordExpression p s
  | _ => surprisedBy (← next)

end Deflatten.Script.Grammar
