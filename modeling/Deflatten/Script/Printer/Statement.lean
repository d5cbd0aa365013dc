import Deflatten.Script.Printer.Expression
import Deflatten.Tree.Chain
/-!
# Statements as text

Every statement ends in a semicolon or a brace. An `else` is kept with its `if`: a branch before it that ends in an
`if` without `else` is printed as a block.
-/

namespace Deflatten.Script.Printer

/-! ## Open statements -/

/-- The types of statements that end in the statement in their body. -/
def endsInBody (tag : String) : Bool :=
  ["WhileStatement", "ForStatement", "ForInStatement", "ForOfStatement", "WithStatement",
    "LabeledStatement"].contains tag

/-- Whether an `else` after a statement would belong to an `if` inside it. -/
def isOpen (t : Tree) : Bool :=
  if t.isConditional then
    match _h : t.field? "alternate" with
    | none => true
    | some alternate => alternate.isAbsent || isOpen alternate
  else if endsInBody (t.tag?.getD "") then
    match _h : t.field? "body" with
    | none => false
    | some body => isOpen body
  else false
termination_by sizeOf t
decreasing_by
  all_goals exact Tree.sizeOf_field_lt _h

/-! ## Blocks -/

/-- The branch of an `if` that an `else` follows. -/
def guardedBranch (p : Printers) (level : Nat) (t : Tree) : Printing String := do
  if isOpen t then return " " ++ (← bracedText p level [t]) else attached p level t

/-- What separates a body from the word after it: a space behind a block, a new line behind anything else. -/
def afterBody (level : Nat) (isBraced : Bool) : String := if isBraced then " " else newLine level

/-! ## Declarations -/

/-- One declared variable. -/
def declaratorText (p : Printers) (level : Nat) (allowIn : Bool) (t : Tree) : Printing String := do
  let ask : Ask := { least := Precedence.assignment, allowIn }
  let id ← p.expression level ask (t.get "id")
  if (t.get "init").isAbsent then return id
  else return id ++ " = " ++ (← p.expression level ask (t.get "init"))

/-- A declaration. Two or more variables indent what they hold once more. -/
def declarationText (p : Printers) (level : Nat) (allowIn : Bool) (t : Tree) : Printing String := do
  checkKind t
  let declarations := (t.get "declarations").items
  let inner := if declarations.length > 1 then level + 1 else level
  let texts ← declarations.mapM (p.statement inner allowIn)
  return ((t.get "kind").text?).getD "" ++ " " ++ commas texts ++ ";"

/-! ## Expressions as statements -/

/-- The field that holds the part of an expression that its text begins with. -/
def leadingField? : String → Option String
  | "BinaryExpression" | "LogicalExpression" | "AssignmentExpression" => some "left"
  | "ConditionalExpression" => some "test"
  | "MemberExpression" => some "object"
  | "CallExpression" => some "callee"
  | "TaggedTemplateExpression" => some "tag"
  | _ => none

/-- The field that holds the part of an expression in which the beginning of a declaration is looked for. What a member
or a template belongs to is not looked into. -/
def headField? : String → Option String
  | "BinaryExpression" | "LogicalExpression" | "AssignmentExpression" => some "left"
  | "ConditionalExpression" => some "test"
  | "CallExpression" => some "callee"
  | "ChainExpression" => some "expression"
  | _ => none

/-- Whether an expression, or an expression that begins it, passes a test. The field that holds what begins a node
is told by the type of the node; a sequence begins with its first item. -/
def leads (beginning? : String → Option String) (test : Tree → Bool) (t : Tree) : Bool :=
  match t with
  | .node tag fs =>
    if test (.node tag fs) then true
    else if tag = "SequenceExpression" then
      match _h : Tree.field? (.node tag fs) "expressions" with
      | some (.list (first :: _)) => leads beginning? test first
      | _ => false
    else
      match beginning? tag with
      | none => false
      | some field =>
        match _h : Tree.field? (.node tag fs) field with
        | some part => leads beginning? test part
        | none => false
  | _ => false
termination_by sizeOf t
decreasing_by
  · have := Tree.sizeOf_field_lt _h
    simp only [Tree.list.sizeOf_spec, List.cons.sizeOf_spec] at this
    omega
  · exact Tree.sizeOf_field_lt _h

/-- Whether an expression begins with a literal, function or class that a statement may not begin with. -/
def beginsLikeStatement : Tree → Bool :=
  leads leadingField? fun t =>
    ["ObjectExpression", "ObjectPattern", "FunctionExpression", "ClassExpression"].any t.hasTag

/-- Whether a tree is a name with some text. -/
def isNameOf (t : Tree) (name : String) : Bool := t.hasTag Tag.name && (t.get "name").text? == some name

/-- Whether an expression is `let` with a bracket right behind it, which a declaration would begin with. -/
def isLetMember (t : Tree) : Bool :=
  t.hasTag "MemberExpression" && (t.get "computed").isSet && !(t.get "optional").isSet &&
    isNameOf (t.get "object") "let"

/-- Whether an expression begins like a declaration. -/
def beginsLikeDeclaration : Tree → Bool := leads headField? isLetMember

/-- Whether a text begins with a word that one of some characters or a blank follows. -/
def beginsWith (word : String) (marks : List Char) (s : List Char) : Bool :=
  word.toList.isPrefixOf s && (s.drop word.length).head?.any fun c => isBlank c || marks.contains c

/-- Whether a text begins like a statement of another kind. -/
def looksLikeStatement (s : String) : Bool :=
  let cs := s.toList
  let opensFunction (cs : List Char) := beginsWith "function" ['(', '*'] cs
  cs.head? == some '\x7b' || beginsWith "class" ['\x7b'] cs || opensFunction cs ||
    (beginsWith "async" [] cs && opensFunction ((cs.drop 5).dropWhile Blank.isSpace)) || "let[".toList.isPrefixOf cs

/-- Whether an expression is the text `use strict` without being that directive. -/
def isFalseDirective (t : Tree) : Bool :=
  let e := t.get "expression"
  e.hasTag Tag.literal && (e.get "value").text? == some "use strict" && (t.get "directive").text? != some "use strict"

/-- The quote around a directive: the one that is not the first quote in it, which a backslash may not stand before. -/
def directiveQuote : List Char → Char
  | [] => '\''
  | '\\' :: _ :: cs => directiveQuote cs
  | '\'' :: _ => '"'
  | '"' :: _ => '\''
  | _ :: cs => directiveQuote cs

/-- A directive, as it was written if that is known. -/
def directiveText (t : Tree) : Printing String := do
  let raw := t.get "raw"
  if raw.isSet then return (← joinedBefore raw) ++ ";"
  else
    let _ ← itemsOf (t.get "directive")
    let text ← joinedAfter (t.get "directive")
    let quote := String.singleton (directiveQuote text.toList)
    return quote ++ text ++ quote ++ ";"

/-- An expression as a statement. -/
def expressionStatement (p : Printers) (level : Nat) (t : Tree) : Printing String := do
  let e := t.get "expression"
  let s ← p.expression level (asking Precedence.sequence) e
  if isFalseDirective t then return "'use\\x20strict';"
  else if beginsLikeStatement e || beginsLikeDeclaration e || looksLikeStatement s then return parenthesised s ++ ";"
  else return s ++ ";"

/-! ## Branches and loops -/

/-- A head in parentheses after a word; what it holds is indented once more. -/
def headText (p : Printers) (level : Nat) (word : String) (t : Tree) : Printing String := do
  return word ++ " " ++ parenthesised (← p.expression (level + 1) (asking Precedence.sequence) t)

/-- An `if` statement. -/
def ifText (p : Printers) (level : Nat) (t : Tree) : Printing String := do
  let head ← headText p level "if" (t.get "test")
  let consequent := t.get "consequent"
  let alternate := t.get "alternate"
  if alternate.isAbsent then return head ++ (← attached p level consequent)
  else
    let branch ← guardedBranch p level consequent
    let separator := afterBody level (consequent.isBlock || isOpen consequent)
    let rest ←
      if ← isOfType alternate Tag.conditional then do pure ("else " ++ (← p.statement level true alternate))
      else do pure (join "else" (← attached p level alternate))
    return head ++ branch ++ separator ++ rest

/-- A `do` loop. -/
def doText (p : Printers) (level : Nat) (t : Tree) : Printing String := do
  let body := t.get "body"
  let text := join "do" (← attached p level body)
  let test ← p.expression level (asking Precedence.sequence) (t.get "test")
  return text ++ afterBody level body.isBlock ++ "while " ++ parenthesised test ++ ";"

/-- The part of a head before its first semicolon. It is put in parentheses if it begins like a declaration. -/
def forInit (p : Printers) (level : Nat) (t : Tree) : Printing String := do
  if t.isAbsent then return ";"
  else if ← isOfType t "VariableDeclaration" then p.statement level false t
  else
    let s ← p.expression level { least := Precedence.sequence, allowIn := false } t
    return (if beginsLikeDeclaration t then parenthesised s else s) ++ ";"

/-- A part of a head, with a space before it, or nothing. -/
def forPart (p : Printers) (level : Nat) (t : Tree) : Printing String := do
  if t.isAbsent then return "" else return " " ++ (← p.expression level (asking Precedence.sequence) t)

/-- A `for` statement. -/
def forText (p : Printers) (level : Nat) (t : Tree) : Printing String := do
  let init ← forInit p (level + 1) (t.get "init")
  let test ← forPart p (level + 1) (t.get "test")
  let step ← forPart p (level + 1) (t.get "update")
  return "for (" ++ init ++ test ++ ";" ++ step ++ ")" ++ (← attached p level (t.get "body"))

/-- What a `for` statement assigns the keys or items to. Before `of`, a target that would be read as something else is
put in parentheses. -/
def targetText (p : Printers) (level : Nat) (word : String) (t : Tree) : Printing String := do
  if ← isOfType t "VariableDeclaration" then
    let kind ← joinedBefore (t.get "kind")
    return kind ++ " " ++ (← p.statement (level + 1) false (← itemAt (t.get "declarations") 0))
  else
    let s ← p.expression level (asking Precedence.call) t
    let isMisread := isNameOf t "let" || isNameOf t "async" || beginsLikeDeclaration t
    return if word == "of" && isMisread then parenthesised s else s

/-- A `for` statement that goes through keys or items. -/
def forEachText (p : Printers) (level : Nat) (word : String) (t : Tree) : Printing String := do
  let target ← targetText p (level + 1) word (t.get "left")
  let right ← p.expression (level + 1) (asking Precedence.assignment) (t.get "right")
  let opening := if (t.get "await").isSet then "for await " else "for "
  return opening ++ parenthesised (join (join target word) right) ++ (← attached p level (t.get "body"))

/-! ## Jumps -/

/-- A jump, with the label that it names. -/
def jumpText (word : String) (t : Tree) : Printing String := do
  let label := t.get "label"
  if label.isAbsent then return word ++ ";"
  else return word ++ " " ++ (← joinedAfter (← fieldOf label "name")) ++ ";"

/-- A label, which may be any text, and its statement. -/
def labeledText (p : Printers) (level : Nat) (t : Tree) : Printing String := do
  let label ← joinedBefore (← fieldOf (t.get "label") "name")
  return label ++ ":" ++ (← attached p level (t.get "body"))

/-- A word with an argument that must begin on its line. -/
def argumentText (p : Printers) (level : Nat) (word : String) (t : Tree) : Printing String := do
  return join word (keptTogether (← p.expression level (asking Precedence.sequence) (t.get "argument"))) ++ ";"

/-- A `return`, with the value that it gives if there is one. -/
def returnText (p : Printers) (level : Nat) (t : Tree) : Printing String :=
  if (t.get "argument").isAbsent then .ok "return;" else argumentText p level "return" t

/-! ## Other statements -/

/-- A case of a `switch` statement. A block that comes first stands on the line of the case. -/
def caseText (p : Printers) (level : Nat) (t : Tree) : Printing String := do
  let test := t.get "test"
  let head ←
    if test.isAbsent then pure "default:"
    else do pure (join "case" (← p.expression (level + 1) (asking Precedence.sequence) test) ++ ":")
  let body := (t.get "consequent").items
  let (opening, rest) ←
    match body with
    | first :: rest =>
      if ← isOfType first Tag.block then do pure (" " ++ (← p.statement (level + 1) true first), rest)
      else pure ("", body)
    | [] => pure ("", [])
  let texts ← rest.mapM fun t => return newLine (level + 1) ++ (← p.statement (level + 1) true t)
  return head ++ opening ++ String.join texts

/-- A `switch` statement. -/
def switchText (p : Printers) (level : Nat) (t : Tree) : Printing String := do
  let head ← headText p level "switch" (t.get "discriminant")
  let texts ← (t.get "cases").items.mapM fun c => return pad level ++ (← p.statement level true c) ++ "\n"
  return head ++ " \x7b\n" ++ String.join texts ++ pad level ++ "\x7d"

/-- A text with handlers behind it; `goesOn` tells whether more follows the last of them. -/
def withHandlers (p : Printers) (level : Nat) (goesOn : Bool) (text : String) : List Tree → Printing String
  | [] => return text
  | handler :: handlers => do
    let text := join text (← p.statement level true handler)
    if goesOn || !handlers.isEmpty then
      let isBraced ← isOfType (← fieldOf handler "body") Tag.block
      withHandlers p level goesOn (text ++ afterBody level isBraced) handlers
    else return text

/-- The items of a field that need not be there. -/
def optionalItems (t : Tree) (name : String) : Printing (List Tree) :=
  if (t.get name).isSet then itemsOf (t.get name) else .ok []

/-- A `try` statement. Its handlers may stand in a list, or some with guards before the others. -/
def tryText (p : Printers) (level : Nat) (t : Tree) : Printing String := do
  let body := t.get "block"
  let finalizer := t.get "finalizer"
  let goesOn := finalizer.isSet
  let text := "try" ++ (← attached p level body) ++ afterBody level body.isBlock
  let caught ←
    if (t.get "handlers").isSet then do withHandlers p level goesOn text (← itemsOf (t.get "handlers"))
    else do
      let text ← withHandlers p level goesOn text (← optionalItems t "guardedHandlers")
      match t.get "handler" with
      | .list handlers => withHandlers p level goesOn text handlers
      | handler => withHandlers p level goesOn text (if handler.isSet then [handler] else [])
  if goesOn then return join caught ("finally" ++ (← attached p level finalizer)) else return caught

/-- The handler of a `try` statement. What it catches may be narrowed by a guard. -/
def catchText (p : Printers) (level : Nat) (t : Tree) : Printing String := do
  let part := p.expression (level + 1) (asking Precedence.sequence)
  let param := t.get "param"
  let guarded := t.get "guard"
  let head ←
    if param.isAbsent then pure "catch"
    else do
      let caught ← part param
      let guardText ← if guarded.isSet then do pure (" if " ++ (← part guarded)) else pure ""
      pure ("catch " ++ parenthesised (caught ++ guardText))
  return head ++ (← attached p level (t.get "body"))

/-- The body of a class. -/
def classBodyText (p : Printers) (level : Nat) (t : Tree) : Printing String := do
  let members ← (t.get "body").items.mapM fun m =>
    return pad (level + 1) ++ (← p.expression (level + 1) (asking Precedence.sequence) m) ++ "\n"
  return "\x7b\n" ++ String.join members ++ pad level ++ "\x7d"

/-! ## Imports and exports -/

/-- The attributes with which a module is imported. -/
def attributesText (p : Printers) (level : Nat) (t : Tree) : Printing String := do
  let attributes := eitherOf (t.get "attributes") (t.get "assertions")
  if attributes.isAbsent then return ""
  else
    let part := p.expression level (asking Precedence.sequence)
    let texts ← (← itemsOf attributes).mapM fun q =>
      return (← part (← fieldOf q "key")) ++ ": " ++ (← part (← fieldOf q "value"))
    return " with \x7b " ++ commas texts ++ " \x7d"

/-- The module in a field, with its attributes, and the end of the statement. -/
def moduleText (p : Printers) (level : Nat) (t : Tree) : Printing String := do
  let source ← p.expression level (asking Precedence.sequence) (t.get "source")
  return source ++ (← attributesText p level t) ++ ";"

/-- The names that an import binds besides a default one. A namespace stands alone. -/
def importedText (p : Printers) (level : Nat) (specifiers : List Tree) : Printing String := do
  match specifiers with
  | [] => return ""
  | first :: _ =>
    if ← isOfType first "ImportNamespaceSpecifier" then p.expression level (asking Precedence.sequence) first
    else
      match ← specifiers.mapM (p.expression (level + 1) (asking Precedence.sequence)) with
      | [s] => return "\x7b " ++ s ++ " \x7d"
      | texts => return "\x7b" ++ stacked level texts "\x7d"

/-- An import declaration. -/
def importText (p : Printers) (level : Nat) (t : Tree) : Printing String := do
  match (t.get "specifiers").items with
  | [] => return "import " ++ (← moduleText p level t)
  | first :: rest =>
    let head ←
      if ← isOfType first "ImportDefaultSpecifier" then do
        let name ← p.expression level (asking Precedence.sequence) first
        if rest.isEmpty then pure name else do pure (name ++ ", " ++ (← importedText p level rest))
      else importedText p level (first :: rest)
    return "import " ++ head ++ " from " ++ (← moduleText p level t)

/-- Names that are exported. -/
def exportedText (p : Printers) (level : Nat) (specifiers : List Tree) : Printing String := do
  match specifiers with
  | [] => return "\x7b \x7d"
  | first :: _ =>
    if ← isOfType first "ExportBatchSpecifier" then p.expression level (asking Precedence.sequence) first
    else
      let texts ← specifiers.mapM (p.expression (level + 1) (asking Precedence.sequence))
      return "\x7b" ++ stacked level texts "\x7d"

/-- An export of a declaration or of names. -/
def exportText (p : Printers) (level : Nat) (t : Tree) : Printing String := do
  let declaration := t.get "declaration"
  if declaration.isSet then return "export " ++ (← p.statement level true declaration)
  else if (t.get "specifiers").isNull then return "export"
  else
    let names ← exportedText p level (← itemsOf (t.get "specifiers"))
    let ending ← if (t.get "source").isAbsent then pure ";" else do pure (" from " ++ (← moduleText p level t))
    return "export " ++ names ++ ending

/-- An export of all names of a module, perhaps under one name. -/
def exportAllText (p : Printers) (level : Nat) (t : Tree) : Printing String := do
  let exported := t.get "exported"
  let name ←
    if exported.isAbsent then pure ""
    else do pure (" as " ++ (← p.expression level (asking Precedence.sequence) exported))
  return "export *" ++ name ++ " from " ++ (← moduleText p level t)

/-- The types of statements, and of parts that are printed like statements. -/
def statementTags : List String := [
  "Program", "BlockStatement", "EmptyStatement", "ExpressionStatement", "DirectiveStatement", "IfStatement",
  "VariableDeclaration", "VariableDeclarator", "FunctionDeclaration", "ClassDeclaration", "ClassBody",
  "ReturnStatement", "ThrowStatement", "BreakStatement", "ContinueStatement", "WhileStatement", "WithStatement",
  "DoWhileStatement", "ForStatement", "ForInStatement", "ForOfStatement", "LabeledStatement", "SwitchStatement",
  "SwitchCase", "TryStatement", "CatchClause", "DebuggerStatement", "ImportDeclaration", "ExportAllDeclaration",
  "ExportDefaultDeclaration", "ExportNamedDeclaration"]

/-- Whether a tree is printed like a statement. -/
def isStatement (t : Tree) : Bool := t.tag?.any statementTags.contains

/-- A default export. -/
def exportDefaultText (p : Printers) (level : Nat) (t : Tree) : Printing String := do
  let declaration := t.get "declaration"
  if isStatement declaration then return "export default " ++ (← p.statement level true declaration)
  else return "export default " ++ (← p.expression level (asking Precedence.assignment) declaration) ++ ";"

/-! ## All statements -/

/-- The line before a script that names what is to run it. -/
def openingLine (t : Tree) : Printing String := do
  let line := t.get "hashbang"
  if line.isAbsent then return "" else return "#!" ++ (← joinedAfter line) ++ "\n"

/-- The statements of a whole script, each on lines of its own. -/
def programText (p : Printers) (level : Nat) (t : Tree) : Printing String := do
  let opening ← openingLine t
  let texts ← (t.get "body").items.mapM fun s => return pad level ++ (← p.statement level true s)
  return opening ++ "\n".intercalate texts

/-- A statement. -/
def statement (p : Printers) (level : Nat) (allowIn : Bool) (t : Tree) : Printing String := do
  checkNode t
  match t.tag?.getD "" with
  | "Program" => programText p level t
  | "BlockStatement" => bracedText p level (t.get "body").items
  | "EmptyStatement" => return ";"
  | "ExpressionStatement" => expressionStatement p level t
  | "DirectiveStatement" => directiveText t
  | "IfStatement" => ifText p level t
  | "VariableDeclaration" => declarationText p level allowIn t
  | "VariableDeclarator" => declaratorText p level allowIn t
  | "FunctionDeclaration" => functionText p level t
  | "ClassDeclaration" => classText p level t
  | "ClassBody" => classBodyText p level t
  | "ReturnStatement" => returnText p level t
  | "ThrowStatement" => argumentText p level "throw" t
  | "BreakStatement" => jumpText "break" t
  | "ContinueStatement" => jumpText "continue" t
  | "WhileStatement" =>
    return (← headText p level "while" (t.get "test")) ++ (← attached p level (t.get "body"))
  | "WithStatement" =>
    return (← headText p level "with" (t.get "object")) ++ (← attached p level (t.get "body"))
  | "DoWhileStatement" => doText p level t
  | "ForStatement" => forText p level t
  | "ForInStatement" => forEachText p level "in" t
  | "ForOfStatement" => forEachText p level "of" t
  | "LabeledStatement" => labeledText p level t
  | "SwitchStatement" => switchText p level t
  | "SwitchCase" => caseText p level t
  | "TryStatement" => tryText p level t
  | "CatchClause" => catchText p level t
  | "DebuggerStatement" => return "debugger;"
  | "ImportDeclaration" => importText p level t
  | "ExportAllDeclaration" => exportAllText p level t
  | "ExportDefaultDeclaration" => exportDefaultText p level t
  | "ExportNamedDeclaration" => exportText p level t
  | tag => throw (.unsupportedStatement tag)

end Deflatten.Script.Printer
