import Deflatten.Script.Grammar.Primary
/-!
# Expressions

From calls and members up to assignments. Operators of two operands are kept on a stack until one of lower precedence
follows, so operations of one precedence group to the left.
-/

namespace Deflatten.Script.Grammar

/-! ## Calls and members -/

/-- Items in parentheses, separated by commas. -/
def inParentheses (item : Reading Tree) : Reading (List Tree) := do
  expect "("
  let (items, _) ← repeating ([], true) fun (acc, goOn) => do
    if !goOn || (← sees ")") then return none
    let t ← item
    if ← sees ")" then return some (t :: acc, false)
    expectComma
    return some (t :: acc, true)
  expect ")"
  return items.reverse

/-- The arguments of a call. -/
def arguments (p : Productions) : Reading (List Tree) :=
  inParentheses do if ← sees "..." then spread p else isolated p.assignment

/-- The arguments of a call that may turn out to be the parameters of an asynchronous arrow function. -/
def asyncArguments (p : Productions) : Reading (List Tree) :=
  inParentheses do
    if ← sees "..." then spread p
    else isolated do
      let t ← p.assignment
      modifyScope fun c => { c with shorthandInit := none }
      return t

/-- What follows `new`. -/
def newExpression (p : Productions) : Reading Tree := do
  let word ← anyName
  if ← sees "." then
    skip
    if (← seesName "target") && (← askScope Scope.inFunction) then
      return .node "MetaProperty" [("meta", word), ("property", ← anyName)]
    else surprised
  else if ← seesWord "import" then surprised
  else
    let callee ← isolated p.callee
    let args ← if ← sees "(" then arguments p else pure []
    plainValue
    return .node "NewExpression" [("callee", callee), ("arguments", .list args)]

/-- A member, a piece of a chain of calls and members; `none` where the chain ends. -/
def memberPiece (p : Productions) (t : Tree) : Reading (Option Tree) := do
  match (← lexeme) with
  | .mark "." =>
    memberTarget
    skip
    return some (Build.member t (← anyName) false)
  | .mark "[" =>
    memberTarget
    skip
    let property ← isolated (expression p)
    expect "]"
    return some (Build.member t property true)
  | .template _ true _ => return some (.node "TaggedTemplateExpression" [("tag", t), ("quasi", ← template p)])
  | _ => return none

/-- The start of a chain of calls and members. -/
def chainStart (p : Productions) : Reading Tree :=
  inherited do if ← seesWord "new" then newExpression p else primary p

/-- Whether `super` is ahead where it has a meaning. -/
def seesSuper : Reading Bool := return (← seesWord "super") && (← askScope Scope.inFunction)

/-- `super`, which only some marks may follow. -/
def superExpression (marks : List String) : Reading Tree := do
  skip
  unless ← seesAny marks do surprised
  return .node "Super" []

/-- The callee of `new`: a chain without calls. -/
def callee (p : Productions) : Reading Tree := do
  let start ← if ← seesSuper then superExpression ["[", "."] else chainStart p
  repeating start (memberPiece p)

/-- A call of what was read. If `async` stands on the line before the parenthesis and an arrow follows, the arguments
are the parameters of an arrow function. -/
def callPiece (p : Productions) (t : Tree) (asyncLine : Option Nat) : Reading Tree := do
  let mayBeArrow := asyncLine == some (← get).ahead.line
  plainValue
  let args ← if mayBeArrow then asyncArguments p else arguments p
  if t.hasTag "Import" && args.length != 1 then tolerate .misplaced
  if mayBeArrow && (← sees "=>") then return Build.arrowHead (args.map Build.pattern) true
  else return .node "CallExpression" [("callee", t), ("arguments", .list args)]

/-- A chain of calls and members. -/
def leftHandSide (p : Productions) : Reading Tree := do
  let first := (← get).ahead
  let asyncLine := if first.lexeme == .name "async" then some first.line else none
  allowingIn true do
    let start ← if ← seesSuper then superExpression ["(", ".", "["] else chainStart p
    repeating start fun t => do
      if ← sees "(" then return some (← callPiece p t asyncLine)
      else memberPiece p t

/-! ## Operators -/

/-- Whether an expression is a name that strict code may not assign to. -/
def isRestricted (t : Tree) : Bool :=
  t.hasTag Tag.name && (t.get "name").text?.any Words.restricted.contains

/-- Checks the operand of `++` or `--`. -/
def checkUpdate (t : Tree) (inStrict : Fault.Cause) : Reading Unit := do
  if (← askScope Scope.strict) && isRestricted t then tolerate inStrict
  unless ← askScope Scope.isTarget do tolerate .invalidAssignment

/-- An operation with `++` or `--`. -/
def updateNode (operator : String) (argument : Tree) (isBefore : Bool) : Tree :=
  .node "UpdateExpression" [("operator", .text operator), ("argument", argument), ("prefix", .bool isBefore)]

/-- The operand of an operator, with `++` and `--`. -/
def update (p : Productions) : Reading Tree := do
  if ← seesAny ["++", "--"] then
    let t ← next
    let argument ← inherited p.unary
    checkUpdate argument .strictPrefixUpdate
    plainValue
    return updateNode t.lexeme.shown argument true
  else
    let argument ← inherited (leftHandSide p)
    if !(← afterLineBreak) && (← seesAny ["++", "--"]) then
      checkUpdate argument .strictPostfixUpdate
      plainValue
      return updateNode (← next).lexeme.shown argument false
    else return argument

/-- The operators of one operand. -/
def isUnaryOperator : Lexeme → Bool
  | .mark s => ["+", "-", "~", "!"].contains s
  | .keyword s => ["delete", "void", "typeof"].contains s
  | _ => false

/-- An operation on one operand. -/
def unary (p : Productions) : Reading Tree := do
  if isUnaryOperator (← lexeme) then
    let operator := (← next).lexeme.shown
    let argument ← inherited p.unary
    if (← askScope Scope.strict) && operator == "delete" && argument.hasTag Tag.name then tolerate .strictDelete
    plainValue
    return .node "UnaryExpression" [("operator", .text operator), ("argument", argument), ("prefix", .bool true)]
  else if (← askScope Scope.allowAwait) && (← seesName "await") then
    skip
    return .node "AwaitExpression" [("argument", ← p.unary)]
  else update p

/-- A power; it groups to the right. -/
def power (p : Productions) : Reading Tree := do
  let left ← inherited (unary p)
  if !left.hasTag "UnaryExpression" && (← sees "**") then
    skip
    plainValue
    return Build.operation "**" left (← isolated p.power)
  else return left

/-- The precedence of an operator of two operands, zero for anything else. -/
def precedence (allowIn : Bool) : Lexeme → Nat
  | .mark s =>
    match s with
    | "||" => 1
    | "&&" => 2
    | "|" => 3
    | "^" => 4
    | "&" => 5
    | "==" | "!=" | "===" | "!==" => 6
    | "<" | ">" | "<=" | ">=" => 7
    | "<<" | ">>" | ">>>" => 8
    | "+" | "-" => 9
    | "*" | "/" | "%" => 11
    | _ => 0
  | .keyword "instanceof" => 7
  | .keyword "in" => if allowIn then 7 else 0
  | _ => 0

/-- An operator with its left operand, waiting for its right one. -/
structure Waiting where
  left : Tree
  operator : String
  precedence : Nat

/-- Closes the operations whose operator binds at least as tightly as a precedence; `right` is the last operand. -/
def reduce (least : Nat) : List Waiting → Tree → List Waiting × Tree
  | [], right => ([], right)
  | w :: ws, right =>
    if least ≤ w.precedence then reduce least ws (Build.operation w.operator w.left right) else (w :: ws, right)

/-- Operations on two operands. -/
def binary (p : Productions) : Reading Tree := do
  let first ← inherited (power p)
  let allowIn ← askScope Scope.allowIn
  let (waiting, last) ← repeating ([], first) fun (waiting, last) => do
    let l ← lexeme
    let level := precedence allowIn l
    if level = 0 then return none
    skip
    plainValue
    -- What binds at least as tightly is complete, and becomes the left operand of this operator.
    let (waiting, left) := reduce level waiting last
    return some (⟨left, l.shown, level⟩ :: waiting, ← isolated (power p))
  -- Level zero is below every operator, so this closes all that still wait.
  return (reduce 0 waiting last).2

/-- A conditional. -/
def conditional (p : Productions) : Reading Tree := do
  let test ← inherited (binary p)
  if ← sees "?" then
    skip
    let consequent ← allowingIn true (isolated p.assignment)
    expect ":"
    let alternate ← isolated p.assignment
    plainValue
    return .node "ConditionalExpression" [("test", test), ("consequent", consequent), ("alternate", alternate)]
  else return test

/-! ## Assignments -/

/-- The operators that assign. -/
def assignmentMarks : List String :=
  ["=", "*=", "**=", "/=", "%=", "+=", "-=", "<<=", ">>=", ">>>=", "&=", "^=", "|="]

/-- Whether an operand may begin with a lexeme, as far as `yield` looks. -/
def mayBeginOperand : Lexeme → Bool
  | .mark s => ["[", "(", "\x7b", "+", "-", "!", "~", "++", "--", "/", "/="].contains s
  | .keyword s => ["class", "delete", "function", "let", "new", "super", "this", "typeof", "void", "yield"].contains s
  | _ => true

/-- A `yield`. -/
def yieldExpression (p : Productions) : Reading Tree := do
  expectWord "yield"
  let (argument, delegate) ←
    if ← afterLineBreak then pure (none, false)
    else allowingYield false do
      if ← sees "*" then
        skip
        pure (some (← p.assignment), true)
      else if mayBeginOperand (← lexeme) then pure (some (← p.assignment), false)
      else pure (none, false)
  return .node "YieldExpression" [("argument", Build.optional argument), ("delegate", .bool delegate)]

/-- An arrow function after its parameters. -/
def arrowFunction (p : Productions) (ps : Parameters) (isAsync : Bool) : Reading Tree := do
  if ← afterLineBreak then tolerateSurprise (← get).ahead
  modifyScope fun c => { c with shorthandInit := none }
  let body ← inFunction isAsync false <| bodyAfter ps true do
    expect "=>"
    if ← sees "\x7b" then allowingIn true (functionBody p) else isolated p.assignment
  return .node "ArrowFunctionExpression" [("params", .list ps.list), ("body", body), ("generator", .bool false),
    ("expression", .bool !body.isBlock), ("async", .bool isAsync)]

/-- The rest of an assignment after its left side; `first` is the token that it began with. -/
def assignmentRest (p : Productions) (first : Token) (left : Tree) : Reading Tree := do
  unless ← askScope Scope.isTarget do tolerate .invalidAssignment
  if (← askScope Scope.strict) && left.hasTag Tag.name then
    let name := ((left.get "name").text?).getD ""
    if Words.restricted.contains name then tolerateAt first.line .strictAssignment
    if Words.strict.contains name then tolerateAt first.line .strictReserved
  let left ←
    if ← sees "=" then pure (Build.pattern left)
    else
      plainValue
      pure left
  let operator := (← next).lexeme.shown
  let right ← isolated p.assignment
  modifyScope fun c => { c with shorthandInit := none }
  return .node Tag.assignment [("operator", .text operator), ("left", left), ("right", right)]

/-- The left side of an assignment, or the parameters of an arrow function that is written `async x =>`. -/
def assignmentLeft (p : Productions) (first : Token) : Reading Tree := do
  let left ← conditional p
  let s ← get
  if first.lexeme == .name "async" && first.line == s.ahead.line then
    let nameFollows := isName s.ahead.lexeme || s.ahead.lexeme == .keyword "yield"
    if nameFollows then return Build.arrowHead [Build.pattern (← primary p)] true
  return left

/-- An assignment, an arrow function, or anything that binds more tightly. -/
def assignment (p : Productions) : Reading Tree := do
  if !(← askScope Scope.allowYield) && (← seesWord "yield") then yieldExpression p
  else
    let first := (← get).ahead
    let left ← assignmentLeft p first
    if left.hasTag "ArrowParameterPlaceHolder" || (← sees "=>") then
      plainValue
      match ← arrowParameters left with
      | some ps => arrowFunction p ps (left.get "async").isSet
      -- What stands before `=>` cannot be parameters, so the arrow is left to whoever reads on.
      | none => return left
    else if ← seesAny assignmentMarks then assignmentRest p first left
    else return left

end Deflatten.Script.Grammar
