import Deflatten.Script.Grammar.Expression
/-!
# Statements

Declarations, loops, branches and jumps.
-/

namespace Deflatten.Script.Grammar

/-! ## Blocks and declarations -/

/-- A block. -/
def block (p : Productions) : Reading Tree := do
  expect "\x7b"
  let body ← collectUntil "\x7d" p.item
  expect "\x7d"
  return Build.block body

/-- An initial value after `=`. -/
def initialValue (p : Productions) : Reading Tree := do
  expect "="
  isolated p.assignment

/-- One declared variable. -/
def declarator (id : Tree) (init : Option Tree) : Tree :=
  .node Tag.declarator [("id", id), ("init", Build.optional init)]

/-- What a declaration binds; strict code may not bind some names. -/
def declared (p : Productions) (kind : String) : Reading Tree := do
  let (id, _) ← p.pattern (some kind)
  if (← askScope Scope.strict) && isRestricted id then tolerate .strictVariable
  return id

/-- A variable of a `var` declaration. -/
def varDeclarator (p : Productions) (inFor : Bool) : Reading Tree := do
  let id ← declared p "var"
  if ← sees "=" then return declarator id (some (← initialValue p))
  if !id.hasTag Tag.name && !inFor then expect "="
  return declarator id none

/-- A variable of a `let` or `const` declaration. -/
def lexicalDeclarator (p : Productions) (kind : String) (inFor : Bool) : Reading Tree := do
  let id ← declared p kind
  if kind == "const" then
    if (← seesWord "in") || (← seesName "of") then return declarator id none
    if ← sees "=" then return declarator id (some (← initialValue p))
    refuse (.missingInitializer "const")
  else if (!inFor && !id.hasTag Tag.name) || (← sees "=") then return declarator id (some (← initialValue p))
  else return declarator id none

/-- Items separated by commas, at least one. -/
def separated (item : Reading Tree) : Reading (List Tree) := do
  let first ← item
  let more ← collect do
    if ← sees "," then
      skip
      return some (← item)
    else return none
  return first :: more

/-- A `let` or `const` declaration. -/
def lexicalDeclaration (p : Productions) : Reading Tree := do
  let kind := (← next).lexeme.shown
  let declarations ← separated (lexicalDeclarator p kind false)
  endStatement
  return Build.declaration kind declarations

/-- A `var` declaration. -/
def varStatement (p : Productions) : Reading Tree := do
  expectWord "var"
  let declarations ← separated (varDeclarator p false)
  endStatement
  return Build.declaration "var" declarations

/-! ## Branches and loops -/

/-- A branch of an `if` statement. -/
def branch (p : Productions) : Reading Tree := do
  if (← askScope Scope.strict) && (← seesWord "function") then tolerate .strictFunctionPlace
  p.statement

/-- An `if` statement. -/
def ifStatement (p : Productions) : Reading Tree := do
  expectWord "if"
  expect "("
  let test ← expression p
  let (consequent, alternate) ←
    -- A head that is not closed has no body either; only tolerant reading gets so far.
    if ← closeHead then do
      let consequent ← branch p
      if ← seesWord "else" then
        skip
        pure (consequent, some (← branch p))
      else pure (consequent, none)
    else pure (Build.empty, none)
  return .node Tag.conditional [("test", test), ("consequent", consequent), ("alternate", Build.optional alternate)]

/-- A `do` loop. -/
def doStatement (p : Productions) : Reading Tree := do
  expectWord "do"
  let body ← looping p.statement
  expectWord "while"
  expect "("
  let test ← expression p
  if ← closeHead then
    if ← sees ";" then skip
  return .node "DoWhileStatement" [("body", body), ("test", test)]

/-- A `while` loop. -/
def whileStatement (p : Productions) : Reading Tree := do
  expectWord "while"
  expect "("
  let test ← expression p
  let body ← if ← closeHead then looping p.statement else pure Build.empty
  return .node "WhileStatement" [("test", test), ("body", body)]

/-- A `with` statement. -/
def withStatement (p : Productions) : Reading Tree := do
  if ← askScope Scope.strict then tolerate .strictWith
  expectWord "with"
  expect "("
  let object ← expression p
  let body ← if ← closeHead then p.statement else pure Build.empty
  return .node "WithStatement" [("object", object), ("body", body)]

/-- What the head of a `for` statement holds. -/
inductive ForHead where
  | classic (init : Option Tree)
  | each (tag : String) (left right : Tree)

/-- The rest of a head that goes through the keys of an object. -/
def forIn (p : Productions) (left : Tree) : Reading ForHead := do
  skip
  return .each "ForInStatement" left (← expression p)

/-- The rest of a head that goes through the items of a list. -/
def forOf (p : Productions) (left : Tree) : Reading ForHead := do
  skip
  return .each "ForOfStatement" left (← p.assignment)

/-- A single variable of a declaration in a head. -/
def single? : List Tree → Option Tree
  | [t] => some t
  | _ => none

/-- A head that declares variables with `var`. -/
def forVar (p : Productions) : Reading ForHead := do
  skip
  let declarations ← allowingIn false (separated (varDeclarator p true))
  let declaration := Build.declaration "var" declarations
  match single? declarations with
  | some d =>
    let isInitialised := !(d.get "init").isNull
    if ← seesWord "in" then
      let id := d.get "id"
      -- Only a bare name in sloppy code may have a value in front of `in`.
      let isPattern := id.hasTag "ArrayPattern" || id.hasTag "ObjectPattern"
      if isInitialised && (isPattern || (← askScope Scope.strict)) then tolerate (.loopInitializer "for-in")
      forIn p declaration
    else if !isInitialised && (← seesName "of") then forOf p declaration
    else
      expect ";"
      return .classic (some declaration)
  | none =>
    expect ";"
    return .classic (some declaration)

/-- A head that declares variables with `let` or `const`. -/
def forLexical (p : Productions) : Reading ForHead := do
  let kind := (← next).lexeme.shown
  -- In sloppy code `let` can be the name of the variable itself.
  if !(← askScope Scope.strict) && (← lexeme).shown == "in" then forIn p (Build.name kind)
  else
    let declarations ← allowingIn false (separated (lexicalDeclarator p kind true))
    let declaration := Build.declaration kind declarations
    let isBare := (single? declarations).any fun d => (d.get "init").isNull
    if isBare && (← seesWord "in") then forIn p declaration
    else if isBare && (← seesName "of") then forOf p declaration
    else
      endStatement
      return .classic (some declaration)

/-- A head that begins with an expression. -/
def forExpression (p : Productions) : Reading ForHead := do
  let first ← allowingIn false (inherited p.assignment)
  let isWrong := !(← askScope Scope.isTarget) || first.hasTag Tag.assignment
  if ← seesWord "in" then
    if isWrong then tolerate .invalidForIn
    forIn p (Build.pattern first)
  else if ← seesName "of" then
    if isWrong then tolerate .invalidForLoop
    forOf p (Build.pattern first)
  else
    let more ← collect do
      if ← sees "," then
        skip
        return some (← isolated p.assignment)
      else return none
    expect ";"
    return .classic (some (if more.isEmpty then first
      else .node "SequenceExpression" [("expressions", .list (first :: more))]))

/-- The head of a `for` statement up to its first semicolon, or up to its end if it has none. -/
def forHead (p : Productions) : Reading ForHead := do
  if ← sees ";" then
    skip
    return .classic none
  else if ← seesWord "var" then forVar p
  else if (← seesWord "const") || (← seesWord "let") then forLexical p
  else forExpression p

/-- A `for` statement. -/
def forStatement (p : Productions) : Reading Tree := do
  expectWord "for"
  expect "("
  let head ← forHead p
  let (tag, fields) ← do
    match head with
    | .each tag left right => pure (tag, [("left", left), ("right", right)])
    | .classic init =>
      let test ← if ← sees ";" then pure none else some <$> expression p
      expect ";"
      let step ← if ← sees ")" then pure none else some <$> expression p
      pure ("ForStatement",
        [("init", Build.optional init), ("test", Build.optional test), ("update", Build.optional step)])
  let body ← if ← closeHead then looping (isolated p.statement) else pure Build.empty
  return .node tag (fields ++ [("body", body)])

/-! ## Jumps -/

/-- The label that a jump names, if it names one on its line; it must be in force. -/
def jumpLabel : Reading (Option Tree) := do
  if isName (← lexeme) && !(← afterLineBreak) then
    let label ← boundName none
    let name := ((label.get "name").text?).getD ""
    unless (← askScope Scope.labels).contains name do refuse (.unknownLabel name)
    return some label
  else return none

/-- A `continue` statement. -/
def continueStatement : Reading Tree := do
  expectWord "continue"
  let label ← jumpLabel
  endStatement
  if label.isNone && !(← askScope Scope.inLoop) then refuse .illegalContinue
  return .node "ContinueStatement" [("label", Build.optional label)]

/-- A `break` statement. -/
def breakStatement : Reading Tree := do
  expectWord "break"
  let label ← jumpLabel
  endStatement
  if label.isNone && !(← askScope fun c => c.inLoop || c.inSwitch) then refuse .illegalBreak
  return .node "BreakStatement" [("label", Build.optional label)]

/-- Whether a `return` has an argument; a string or template belongs to it even on the next line. -/
def returnsValue : Reading Bool := do
  match (← lexeme) with
  | .string _ _ | .template _ _ _ => return true
  | .mark ";" | .mark "\x7d" | .endOfInput => return false
  | _ => return !(← afterLineBreak)

/-- A `return` statement. -/
def returnStatement (p : Productions) : Reading Tree := do
  unless ← askScope Scope.inFunction do tolerate .illegalReturn
  expectWord "return"
  let argument ← if ← returnsValue then some <$> expression p else pure none
  endStatement
  return .node "ReturnStatement" [("argument", Build.optional argument)]

/-- A `throw` statement. -/
def throwStatement (p : Productions) : Reading Tree := do
  expectWord "throw"
  if ← afterLineBreak then refuse .newlineAfterThrow
  let argument ← expression p
  endStatement
  return .node "ThrowStatement" [("argument", argument)]

/-! ## Other statements -/

/-- A case of a `switch` statement. -/
def switchCase (p : Productions) : Reading Tree := do
  let test ←
    if ← seesWord "default" then
      skip
      pure none
    else
      expectWord "case"
      some <$> expression p
  expect ":"
  let body ← collect do
    if (← sees "\x7d") || (← seesWord "default") || (← seesWord "case") then return none
    else return some (← p.item)
  return .node "SwitchCase" [("test", Build.optional test), ("consequent", .list body)]

/-- A `switch` statement. -/
def switchStatement (p : Productions) : Reading Tree := do
  expectWord "switch"
  expect "("
  let discriminant ← expression p
  expect ")"
  let cases ← within (fun c => { c with inSwitch := true }) (fun b a => { a with inSwitch := b.inSwitch }) do
    expect "\x7b"
    let (cases, _) ← repeating ([], false) fun (acc, hasDefault) => do
      if ← sees "\x7d" then return none
      let t ← switchCase p
      let isDefault := (t.get "test").isNull
      if isDefault && hasDefault then refuse .repeatedDefault
      return some (t :: acc, hasDefault || isDefault)
    expect "\x7d"
    return cases.reverse
  return .node "SwitchStatement" [("discriminant", discriminant), ("cases", .list cases)]

/-- The statement that a label stands before. -/
def labelled (p : Productions) : Reading Tree := do
  let t := (← get).ahead
  if t.lexeme == .keyword "class" then
    tolerateSurprise t
    classDeclaration p false
  else if t.lexeme == .keyword "function" then
    let body ← functionDeclaration p false
    if ← askScope Scope.strict then tolerateAt t.line .strictFunctionPlace
    else if (body.get "generator").isSet then tolerateAt t.line .legacyGenerator
    return body
  else p.statement

/-- A statement that begins with a name: a label, or an expression. -/
def nameStatement (p : Productions) : Reading Tree := do
  let t ← expression p
  if t.hasTag Tag.name && (← sees ":") then
    skip
    let name := ((t.get "name").text?).getD ""
    if (← askScope Scope.labels).contains name then refuse (.repeatedLabel name)
    let body ← within (fun c => { c with labels := name :: c.labels }) (fun b a => { a with labels := b.labels })
      (labelled p)
    return .node "LabeledStatement" [("label", t), ("body", body)]
  else
    endStatement
    return Build.expression t

/-- The handler of a `try` statement. -/
def catchClause (p : Productions) : Reading Tree := do
  expectWord "catch"
  expect "("
  if ← sees ")" then surprised
  let (param, names) ← p.pattern none
  let mut seen := []
  for t in names do
    let name := t.lexeme.shown
    if seen.contains name then tolerate (.repeatedBinding name)
    seen := name :: seen
  if (← askScope Scope.strict) && isRestricted param then tolerate .strictCatch
  expect ")"
  return .node "CatchClause" [("param", param), ("body", ← block p)]

/-- A `try` statement. -/
def tryStatement (p : Productions) : Reading Tree := do
  expectWord "try"
  let body ← block p
  let handler ← if ← seesWord "catch" then some <$> catchClause p else pure none
  let finalizer ←
    if ← seesWord "finally" then
      skip
      some <$> block p
    else pure none
  if handler.isNone && finalizer.isNone then refuse .missingHandler
  return .node "TryStatement" [("block", body), ("handler", Build.optional handler),
    ("finalizer", Build.optional finalizer)]

/-- A `debugger` statement. -/
def debuggerStatement : Reading Tree := do
  expectWord "debugger"
  endStatement
  return .node "DebuggerStatement" []

/-- An expression as a statement. -/
def expressionStatement (p : Productions) : Reading Tree := do
  let t ← expression p
  endStatement
  return Build.expression t

/-- A statement that begins with a reserved word. -/
def wordStatement (p : Productions) : String → Reading Tree
  | "break" => breakStatement
  | "continue" => continueStatement
  | "debugger" => debuggerStatement
  | "do" => doStatement p
  | "for" => forStatement p
  | "function" => functionDeclaration p false
  | "if" => ifStatement p
  | "return" => returnStatement p
  | "switch" => switchStatement p
  | "throw" => throwStatement p
  | "try" => tryStatement p
  | "var" => varStatement p
  | "while" => whileStatement p
  | "with" => withStatement p
  | _ => expressionStatement p

/-- A statement. -/
def statement (p : Productions) : Reading Tree := do
  match (← lexeme) with
  | .mark "\x7b" => block p
  | .mark ";" =>
    skip
    return Build.empty
  | .name _ => if ← seesAsyncFunction then functionDeclaration p false else nameStatement p
  | .keyword s => wordStatement p s
  | .endOfInput => surprised
  | _ => expressionStatement p

end Deflatten.Script.Grammar
