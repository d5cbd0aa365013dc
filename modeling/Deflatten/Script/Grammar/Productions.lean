import Deflatten.Script.Grammar.Parameters
/-!
# Productions

The productions of the grammar call each other. Each is written against a record of those that it may come back to,
and only after it has taken a token, so the depth of nesting that a script can reach is bounded by its length.
`Productions` is that record; patterns, which need only two of them, are read here.
-/

namespace Deflatten.Script.Grammar

/-- The productions that others come back to. `pattern` takes the kind of declaration that it stands in, and gives the
names that it binds with their tokens. -/
structure Productions where
  assignment : Reading Tree
  power : Reading Tree
  unary : Reading Tree
  callee : Reading Tree
  leftHandSide : Reading Tree
  statement : Reading Tree
  item : Reading Tree
  pattern : Option String → Reading (Tree × List Token)

/-! ## Expressions in general -/

/-- An expression, with commas. -/
def expression (p : Productions) : Reading Tree := do
  let first ← isolated p.assignment
  if ← sees "," then
    let more ← collect do
      if ← sees "," then
        skip
        return some (← isolated p.assignment)
      else return none
    return .node "SequenceExpression" [("expressions", .list (first :: more))]
  else return first

/-! ## Names -/

/-- A name, or a reserved word in a place where any word may stand. -/
def anyName : Reading Tree := do
  let t ← next
  match t.lexeme.nameText? with
  | some s => return Build.name s
  | none => surprisedBy t

/-- A name that is bound. -/
def boundName (kind : Option String) : Reading Tree := do
  let t ← next
  let strict ← askScope Scope.strict
  match t.lexeme with
  | .keyword "yield" =>
    if strict then tolerateAt t.line .strictReserved
    else if !(← askScope Scope.allowYield) then surprisedBy t
  | .name "await" =>
    if ← askScope fun c => c.inModule || c.allowAwait then tolerateSurprise t
  | .name _ => pure ()
  | .keyword s =>
    if strict && Words.strict.contains s then tolerateAt t.line .strictReserved
    else if strict || s != "let" || kind != some "var" then surprisedBy t
  | l => if strict || l.shown != "let" || kind != some "var" then surprisedBy t
  return Build.name t.lexeme.shown

/-- The key of a property. -/
def propertyKey (p : Productions) : Reading Tree := do
  let t ← next
  let literal (value : Scalar) : Reading Tree := do
    if (← askScope Scope.strict) && t.lexeme.isOctal then tolerateToken t .strictOctal
    return Build.literal value
  match t.lexeme with
  | .string cs _ => literal (.text (Surrogate.text cs))
  | .number n _ => literal (.number n)
  | .mark "[" =>
    let key ← isolated p.assignment
    expect "]"
    return key
  | l =>
    match l.nameText? with
    | some s => return Build.name s
    | none => surprisedBy t

/-! ## Patterns -/

/-- A pattern with a default, if one follows. -/
def patternWithDefault (p : Productions) (kind : Option String) : Reading (Tree × List Token) := do
  let (pattern, names) ← p.pattern kind
  if ← sees "=" then
    skip
    let right ← allowingYield true (isolated p.assignment)
    return (Build.withDefault pattern right, names)
  else return (pattern, names)

/-- The rest of a list, up to the mark that closes it. -/
def restElement (p : Productions) (close : String) (notLast : Fault.Cause) : Reading (Tree × List Token) := do
  expect "..."
  let (pattern, names) ← p.pattern none
  if ← sees "=" then refuse (.unexpected "=")
  unless ← sees close do refuse notLast
  return (.node "RestElement" [("argument", pattern)], names)

/-- One place of an array pattern, and whether the list may go on after it. -/
def arrayPatternPlace (p : Productions) (kind : Option String) : Reading ((Tree × List Token) × Bool) := do
  if ← sees "," then
    skip
    return ((.null, []), true)
  else if ← sees "..." then
    skip
    let (pattern, names) ← p.pattern kind
    return ((.node "RestElement" [("argument", pattern)], names), false)
  else
    let place ← patternWithDefault p kind
    unless ← sees "]" do expect ","
    return (place, true)

/-- An array pattern. -/
def arrayPattern (p : Productions) (kind : Option String) : Reading (Tree × List Token) := do
  expect "["
  let (places, _) ← repeating ([], true) fun (acc, goOn) => do
    if !goOn || (← sees "]") then return none
    let (place, goOn) ← arrayPatternPlace p kind
    return some (place :: acc, goOn)
  expect "]"
  let places := places.reverse
  return (.node "ArrayPattern" [("elements", .list (places.map Prod.fst))], (places.map Prod.snd).flatten)

/-- A property of an object pattern. -/
def patternProperty (p : Productions) (kind : Option String) : Reading (Tree × List Token) := do
  let t := (← get).ahead
  match t.lexeme with
  | .name s =>
    let key ← boundName none
    if ← sees "=" then
      skip
      let right ← p.assignment
      return (Build.property "init" key false (Build.withDefault (Build.name s) right) false true, [t])
    else if ← sees ":" then
      skip
      let (value, names) ← patternWithDefault p kind
      return (Build.property "init" key false value false false, names)
    else return (Build.property "init" key false (Build.name s) false true, [t])
  | l =>
    let key ← propertyKey p
    expect ":"
    let (value, names) ← patternWithDefault p kind
    return (Build.property "init" key (l == .mark "[") value false false, names)

/-- An object pattern. -/
def objectPattern (p : Productions) (kind : Option String) : Reading (Tree × List Token) := do
  expect "\x7b"
  let places ← collectUntil "\x7d" do
    let place ← if ← sees "..." then restElement p "\x7d" .misplaced else patternProperty p kind
    unless ← sees "\x7d" do expect ","
    return place
  expect "\x7d"
  return (.node "ObjectPattern" [("properties", .list (places.map Prod.fst))], (places.map Prod.snd).flatten)

/-- A pattern: an array or object pattern or a name. -/
def pattern (p : Productions) (kind : Option String) : Reading (Tree × List Token) := do
  if ← sees "[" then arrayPattern p kind
  else if ← sees "\x7b" then objectPattern p kind
  else
    let t := (← get).ahead
    if t.lexeme == .keyword "let" && (kind == some "const" || kind == some "let") then tolerateAt t.line .lexicalLet
    return (← boundName kind, [t])

end Deflatten.Script.Grammar
