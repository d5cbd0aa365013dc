import Deflatten.Script.Grammar.Productions
/-!
# Functions

Parameters, bodies, and the functions and methods made of them. A body may open with directives; `use strict` makes
the code after it strict, and what was left open about the parameters is settled at the end of the body.
-/

namespace Deflatten.Script.Grammar

/-! ## Bodies -/

/-- A directive, or a statement that begins with a string; with it the text between the quotes of a directive. -/
def directive (p : Productions) : Reading (Tree × Option String) := do
  let s ← get
  let written := ((Lexer.before s.tokenStart.rest s.cursor.rest).drop 1).dropLast
  let value ← expression p
  endStatement
  if value.hasTag Tag.literal && !written.isEmpty then
    let text := String.ofList written
    return (.node "ExpressionStatement" [("expression", value), ("directive", .text text)], some text)
  else return (Build.expression value, none)

/-- The directives that open a body, up to the first statement that is none. -/
def directives (p : Productions) : Reading (List Tree) := do
  let (statements, _, _) ← repeating ([], none, true) fun (acc, octal, goOn) => do
    let t := (← get).ahead
    match goOn, t.lexeme with
    | true, .string _ isOctal =>
      let (statement, text) ← directive p
      if text == some "use strict" then
        modifyScope fun c => { c with strict := true }
        if let some line := octal then tolerateAt line .strictOctal
        unless ← askScope Scope.allowStrictDirective do tolerateAt t.line .illegalDirective
      return some (statement :: acc, if isOctal && text != some "use strict" then octal <|> some t.line else octal,
        text.isSome)
    | _, _ => return none
  return statements.reverse

/-- The body of a function. -/
def functionBody (p : Productions) : Reading Tree := do
  expect "\x7b"
  let opening ← directives p
  let statements ← within
    (fun c => { c with labels := [], inLoop := false, inSwitch := false, inFunction := true })
    (fun b a => { a with labels := b.labels, inLoop := b.inLoop, inSwitch := b.inSwitch, inFunction := b.inFunction })
    do
      let statements ← collect do
        if (← atEnd) || (← sees "\x7d") then return none else return some (← p.item)
      expect "\x7d"
      return statements
  return Build.block (opening ++ statements)

/-- Reads a body after its parameters and settles what they left open. -/
def bodyAfter (ps : Parameters) (final : Bool) (body : Reading Tree) : Reading Tree :=
  within (fun c => { c with allowStrictDirective := ps.simple })
    (fun b a => { a with strict := b.strict, allowStrictDirective := b.allowStrictDirective })
    do
      let body ← body
      settle ps final
      return body

/-! ## Parameters -/

/-- One parameter. -/
def parameter (p : Productions) (ps : Parameters) : Reading Parameters := do
  let (t, names) ← if ← sees "..." then restElement p ")" .parameterAfterRest else patternWithDefault p none
  let strict ← askScope Scope.strict
  return (names.foldl (fun ps n => ps.bind strict (some n.line) n.lexeme.shown) ps).push t

/-- The parameters of a function in parentheses. -/
def parameters (p : Productions) (doubt : Option Doubt) : Reading Parameters := do
  expect "("
  let (ps, _) ← repeating ({ doubt := doubt : Parameters }, true) fun (ps, goOn) => do
    if !goOn || (← sees ")") || (← atEnd) then return none
    let ps ← parameter p ps
    if ← sees ")" then return some (ps, false)
    expect ","
    return some (ps, true)
  expect ")"
  return ps

/-! ## Functions -/

/-- What the name of a function leaves open: strict code may forbid it. -/
def nameDoubt (t : Token) : Reading (Option Doubt) := do
  let s := t.lexeme.shown
  let restricted := Words.restricted.contains s
  if ← askScope Scope.strict then
    if restricted then tolerateAt t.line .strictFunctionName
    return none
  else if restricted then return some ⟨t.line, .strictFunctionName⟩
  else if Words.strict.contains s then return some ⟨t.line, .strictReserved⟩
  else return none

/-- The words that open a function: whether it is asynchronous, and whether it is a generator. -/
def functionOpening : Reading (Bool × Bool) := do
  let isAsync ← seesName "async"
  if isAsync then skip
  expectWord "function"
  let isGenerator ← if isAsync then pure false else sees "*"
  if isGenerator then skip
  return (isAsync, isGenerator)

/-- Reads in the scope of a function. -/
def inFunction {α : Type} (isAsync isGenerator : Bool) (body : Reading α) : Reading α :=
  within (fun c => { c with allowAwait := isAsync, allowYield := !isGenerator })
    (fun b a => { a with allowAwait := b.allowAwait, allowYield := b.allowYield }) body

/-- Parameters and body. -/
def parametersAndBody (p : Productions) (doubt : Option Doubt) : Reading (List Tree × Tree) := do
  let ps ← parameters p doubt
  let body ← bodyAfter ps true (functionBody p)
  return (ps.list, body)

/-- A function declaration. -/
def functionDeclaration (p : Productions) (nameOptional : Bool) : Reading Tree := do
  let (isAsync, isGenerator) ← functionOpening
  let (id, doubt) ←
    if nameOptional && (← sees "(") then pure (none, none)
    else do
      let t := (← get).ahead
      let id ← boundName none
      pure (some id, ← nameDoubt t)
  let (ps, body) ← inFunction isAsync isGenerator (parametersAndBody p doubt)
  return Build.function "FunctionDeclaration" id ps body isGenerator isAsync

/-- A function expression. -/
def functionExpression (p : Productions) : Reading Tree := do
  let (isAsync, isGenerator) ← functionOpening
  inFunction isAsync isGenerator do
    let (id, doubt) ←
      if ← sees "(" then pure (none, none)
      else do
        let t := (← get).ahead
        let strict ← askScope Scope.strict
        let id ← if !strict && !isGenerator && (← seesWord "yield") then anyName else boundName none
        pure (some id, ← nameDoubt t)
    let (ps, body) ← parametersAndBody p doubt
    return Build.function "FunctionExpression" id ps body isGenerator isAsync

/-! ## Methods -/

/-- A function without a name, as a method has it. -/
def methodFunction (ps : Parameters) (body : Tree) (isGenerator isAsync : Bool) : Tree :=
  Build.function "FunctionExpression" none ps.list body isGenerator isAsync

/-- The body of a method. -/
def methodBody (p : Productions) (ps : Parameters) : Reading Tree := do
  plainValue
  bodyAfter ps false (isolated (functionBody p))

/-- A method. -/
def method (p : Productions) : Reading Tree :=
  allowingYield true do
    let ps ← parameters p none
    return methodFunction ps (← methodBody p ps) false false

/-- An asynchronous method. -/
def asyncMethod (p : Productions) : Reading Tree :=
  inFunction true true do
    let ps ← parameters p none
    return methodFunction ps (← methodBody p ps) false true

/-- A getter. -/
def getter (p : Productions) : Reading Tree :=
  allowingYield true do
    let ps ← parameters p none
    unless ps.list.isEmpty do tolerate .getterArity
    return methodFunction ps (← methodBody p ps) false false

/-- A setter. -/
def setter (p : Productions) : Reading Tree :=
  allowingYield true do
    let ps ← parameters p none
    match ps.list with
    | [t] => if t.hasTag "RestElement" then tolerate .setterRest
    | _ => tolerate .setterArity
    return methodFunction ps (← methodBody p ps) false false

/-- A generator method. Its parameters are read with `yield` as a name, its body without. -/
def generatorMethod (p : Productions) : Reading Tree :=
  allowingYield true do
    let ps ← parameters p none
    modifyScope fun c => { c with allowYield := false }
    return methodFunction ps (← methodBody p ps) true false

end Deflatten.Script.Grammar
