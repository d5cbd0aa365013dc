import Deflatten.Script.Grammar.Statement
/-!
# Imports, exports and whole scripts

The items of a list of statements, with the declarations that only a module may have. `Productions.ofDepth` ties the
productions together, and `readScript` reads a whole script.
-/

namespace Deflatten.Script.Grammar

/-! ## Imports -/

/-- The module that an import or export names. -/
def moduleName : Reading Tree := do
  match (← lexeme) with
  | .string cs _ =>
    skip
    return Build.literal (.text (Surrogate.text cs))
  | _ => refuse .misplaced

/-- The word `from`, which must stand here. -/
def needFrom : Reading Unit := do
  unless ← seesName "from" do
    let l ← lexeme
    refuse (if !l.isWritable then .longInteger else if l.isShown then .unexpected l.shown else .misplaced)

/-- The word `from` and the module that it names. -/
def fromModule : Reading Tree := do
  needFrom
  skip
  moduleName

/-- A name that is imported, perhaps under another one. -/
def importSpecifier : Reading Tree := do
  let isPlain := isName (← lexeme)
  let imported ← if isPlain then boundName none else anyName
  let binding ←
    if ← seesName "as" then
      skip
      boundName none
    else if isPlain then pure imported
    else surprisedBy (← next)
  return .node "ImportSpecifier" [("local", binding), ("imported", imported)]

/-- Names in braces. -/
def inBraces (item : Reading Tree) : Reading (List Tree) := do
  expect "\x7b"
  let items ← collectUntil "\x7d" do
    let t ← item
    unless ← sees "\x7d" do expect ","
    return t
  expect "\x7d"
  return items

/-- A whole module imported under a name. -/
def importNamespace : Reading Tree := do
  expect "*"
  unless ← seesName "as" do refuse .misplaced
  skip
  return .node "ImportNamespaceSpecifier" [("local", ← anyName)]

/-- What an import binds. -/
def importSpecifiers : Reading (List Tree) := do
  if ← sees "\x7b" then inBraces importSpecifier
  else if ← sees "*" then return [← importNamespace]
  else if (← lexeme).isNameLike && !(← seesWord "default") then
    let first : Tree := .node "ImportDefaultSpecifier" [("local", ← anyName)]
    if ← sees "," then
      skip
      if ← sees "*" then return [first, ← importNamespace]
      else if ← sees "\x7b" then return first :: (← inBraces importSpecifier)
      else surprised
    else return [first]
  else surprisedBy (← next)

/-- An import declaration. -/
def importDeclaration : Reading Tree := do
  if ← askScope Scope.inFunction then refuse .misplaced
  expectWord "import"
  let (specifiers, source) ← do
    match (← lexeme) with
    | .string _ _ => pure ([], ← moduleName)
    | _ => do
      let specifiers ← importSpecifiers
      pure (specifiers, ← fromModule)
  endStatement
  return .node "ImportDeclaration" [("specifiers", .list specifiers), ("source", source)]

/-! ## Exports -/

/-- A name that is exported, perhaps under another one. -/
def exportSpecifier : Reading Tree := do
  let binding ← anyName
  let exported ←
    if ← seesName "as" then
      skip
      anyName
    else pure binding
  return .node "ExportSpecifier" [("exported", exported), ("local", binding)]

/-- What a default export declares. -/
def defaultDeclaration (p : Productions) : Reading Tree := do
  if ← seesWord "function" then functionDeclaration p true
  else if ← seesWord "class" then classDeclaration p true
  else if ← seesName "async" then
    if ← seesAsyncFunction then functionDeclaration p true else p.assignment
  else
    if ← seesName "from" then refuse (.unexpected "from")
    let t ←
      if ← sees "\x7b" then objectLiteral p
      else if ← sees "[" then arrayLiteral p
      else p.assignment
    endStatement
    return t

/-- An export of a declaration, or of names from this module or another. -/
def namedExport (declaration : Option Tree) (specifiers : List Tree) (source : Option Tree) : Tree :=
  .node "ExportNamedDeclaration" [("declaration", Build.optional declaration), ("specifiers", .list specifiers),
    ("source", Build.optional source)]

/-- Names in braces after `export`; with a reserved word among them the names must come from another module. -/
def exportList : Reading (List Tree × Bool) := do
  expect "\x7b"
  let (items, needsSource) ← repeating ([], false) fun (acc, needsSource) => do
    if ← sees "\x7d" then return none
    let needsSource := needsSource || (← seesWord "default")
    let t ← exportSpecifier
    unless ← sees "\x7d" do expect ","
    return some (t :: acc, needsSource)
  expect "\x7d"
  return (items.reverse, needsSource)

/-- An export of names. -/
def exportNames : Reading Tree := do
  let single ←
    if isName (← lexeme) then
      let t : Tree := .node "ExportDefaultSpecifier" [("local", ← anyName)]
      pure [t]
    else pure []
  let listFollows ←
    if single.isEmpty then pure true
    else if ← sees "," then
      skip
      pure true
    else pure false
  let (list, needsSource) ← if listFollows then exportList else pure ([], false)
  let specifiers := single ++ list
  if ← seesName "from" then
    skip
    let source ← moduleName
    endStatement
    return namedExport none specifiers (some source)
  else
    if needsSource then needFrom
    endStatement
    return namedExport none specifiers none

/-- An export declaration. -/
def exportDeclaration (p : Productions) : Reading Tree := do
  if ← askScope Scope.inFunction then refuse .misplaced
  expectWord "export"
  match (← lexeme) with
  | .keyword "default" =>
    skip
    return .node "ExportDefaultDeclaration" [("declaration", ← defaultDeclaration p)]
  | .mark "*" =>
    skip
    let source ← fromModule
    endStatement
    return .node "ExportAllDeclaration" [("source", source)]
  | .keyword "let" | .keyword "const" => return namedExport (some (← lexicalDeclaration p)) [] none
  | .keyword "var" | .keyword "class" | .keyword "function" => return namedExport (some (← p.item)) [] none
  | .keyword _ => surprised
  | _ =>
    if ← seesAsyncFunction then return namedExport (some (← functionDeclaration p false)) [] none
    else exportNames

/-! ## Items -/

/-- Whether `let` opens a declaration here. -/
def opensDeclaration : Reading Bool := do
  match (← peekNext).lexeme with
  | .name _ | .mark "[" | .mark "\x7b" | .keyword "let" | .keyword "yield" => return true
  | _ => return false

/-- Imports and exports belong to modules. -/
def needModule : Reading Unit := do
  unless ← askScope Scope.inModule do tolerateAt (← get).ahead.line .misplaced

/-- An item of a list of statements: a statement or a declaration. -/
def item (p : Productions) : Reading Tree := do
  modifyScope fun c => { c with isTarget := true, isBinding := true }
  match (← lexeme) with
  | .keyword "export" =>
    needModule
    exportDeclaration p
  | .keyword "import" =>
    if ← seesImportCall then expressionStatement p
    else
      needModule
      importDeclaration
  | .keyword "const" => lexicalDeclaration p
  | .keyword "function" => functionDeclaration p false
  | .keyword "class" => classDeclaration p false
  | .keyword "let" => if ← opensDeclaration then lexicalDeclaration p else statement p
  | _ => statement p

/-! ## Whole scripts -/

/-- The productions for a depth of nesting; at depth zero nothing can be read. -/
def Productions.ofDepth : Nat → Productions
  | 0 => ⟨refuse .tooDeep, refuse .tooDeep, refuse .tooDeep, refuse .tooDeep, refuse .tooDeep, refuse .tooDeep,
      refuse .tooDeep, fun _ => refuse .tooDeep⟩
  | depth + 1 => {
      assignment := fun s => Grammar.assignment (.ofDepth depth) s
      power := fun s => Grammar.power (.ofDepth depth) s
      unary := fun s => Grammar.unary (.ofDepth depth) s
      callee := fun s => Grammar.callee (.ofDepth depth) s
      leftHandSide := fun s => Grammar.leftHandSide (.ofDepth depth) s
      statement := fun s => Grammar.statement (.ofDepth depth) s
      item := fun s => Grammar.item (.ofDepth depth) s
      pattern := fun kind s => Grammar.pattern (.ofDepth depth) kind s }

/-- All statements of a script, the directives first. -/
def wholeScript (p : Productions) : Reading (List Tree) := do
  let opening ← directives p
  let statements ← collect do if ← atEnd then return none else return some (← p.item)
  return opening ++ statements

/-- A reader at the start of a script, with the first token ahead. That token is read as in sloppy code. -/
def State.start (mode : Mode) (source : String) : Except Fault State := do
  let first ← (Cursor.start source).skipBlanks { mode with isModule := false }
  let (ahead, cursor) ← first.lex { mode with isModule := false }
  return {
    mode, cursor, ahead
    tokenStart := first
    lineBreak := ahead.line != 1
    lastLine := cursor.line
    scope := { strict := mode.isModule, inModule := mode.isModule }
    rounds := source.length + 2 }

/-- The tree of a script. Fewer than four productions are entered between two tokens, so the depth is never used up. -/
def readScript (mode : Mode) (source : String) : Except Fault Tree := do
  let s ← State.start mode source
  let (body, _) ← wholeScript (.ofDepth (4 * source.length + 8)) s
  return .node "Program" [("body", .list body),
    ("sourceType", .text (if mode.isModule then "module" else "script"))]

end Deflatten.Script.Grammar
