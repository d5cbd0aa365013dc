import Deflatten.Script.Grammar.Function
/-!
# Classes

A class is strict code. Its body is a list of methods, at most one of them the constructor.
-/

namespace Deflatten.Script.Grammar

/-- Whether a key is a given name, written as a name or as a string. -/
def isKey (key : Tree) (name : String) : Bool :=
  (key.hasTag Tag.name && (key.get "name").text? == some name) ||
    (key.hasTag Tag.literal && (key.get "value").text? == some name)

/-- What opens a member of a class: the token that tells its kind, its key as far as it has been read, and how the
member is marked. -/
structure MemberOpening where
  token : Token
  key : Option Tree
  computed : Bool
  isStatic : Bool
  isAsync : Bool

/-- Reads up to the key that follows `static` or `async`, or to the key itself. Brackets around a key that follows
`async` leave no trace. -/
def memberOpening (p : Productions) : Reading MemberOpening := do
  let token := (← get).ahead
  if token.lexeme == .mark "*" then
    skip
    return ⟨token, none, false, false, false⟩
  let computed ← sees "["
  let key ← propertyKey p
  let mut o : MemberOpening := ⟨token, some key, computed, false, false⟩
  let after ← lexeme
  if key.hasTag Tag.name && isKey key "static" && (after.beginsKey || after == .mark "*") then
    let computed := after == .mark "["
    o := { o with token := (← get).ahead, isStatic := true, computed }
    if after == .mark "*" then skip
    else o := { o with key := some (← propertyKey p) }
  let after ← lexeme
  if o.token.lexeme == .name "async" && !(← afterLineBreak) &&
      !([":", "(", "*"].contains after.shown) then
    let token := (← get).ahead
    o := { o with token, isAsync := true, key := some (← propertyKey p) }
    if token.lexeme == .name "constructor" then tolerateAt token.line .asyncConstructor
  return o

/-- A member of a class: its kind, key, function, and whether it is written as a method. -/
structure Member where
  kind : String
  key : Tree
  computed : Bool
  value : Tree
  isMethod : Bool

/-- The rest of a member after its opening. -/
def memberRest (p : Productions) (o : MemberOpening) : Reading Member := do
  let keyFollows := (← lexeme).beginsKey
  if o.token.lexeme == .name "get" && keyFollows then
    let computed ← sees "["
    let key ← propertyKey p
    modifyScope fun c => { c with allowYield := false }
    return ⟨"get", key, computed, ← getter p, false⟩
  else if o.token.lexeme == .name "set" && keyFollows then
    let computed ← sees "["
    let key ← propertyKey p
    return ⟨"set", key, computed, ← setter p, false⟩
  else if o.token.lexeme == .mark "*" && keyFollows then
    let computed ← sees "["
    let key ← propertyKey p
    return ⟨"method", key, computed, ← generatorMethod p, true⟩
  else
    match o.key with
    | some key =>
      unless ← sees "(" do surprised
      return ⟨"method", key, o.computed, ← (if o.isAsync then asyncMethod p else method p), true⟩
    | none => surprised

/-- A member of a class, and whether it is the constructor. -/
def classMember (p : Productions) (hasConstructor : Bool) : Reading (Tree × Bool) := do
  let o ← memberOpening p
  let m ← memberRest p o
  if !m.computed && o.isStatic && isKey m.key "prototype" then failAt o.token.line .staticPrototype
  let isConstructor := !m.computed && !o.isStatic && isKey m.key "constructor"
  if isConstructor then
    if !m.isMethod || (m.value.get "generator").isSet then failAt o.token.line .specialConstructor
    if hasConstructor then failAt o.token.line .repeatedConstructor
  return (.node "MethodDefinition" [("key", m.key), ("computed", .bool m.computed), ("value", m.value),
    ("kind", .text (if isConstructor then "constructor" else m.kind)), ("static", .bool o.isStatic)], isConstructor)

/-- The body of a class. -/
def classBody (p : Productions) : Reading Tree := do
  expect "\x7b"
  let (members, _) ← repeating ([], false) fun (acc, hasConstructor) => do
    if ← sees "\x7d" then return none
    else if ← sees ";" then
      skip
      return some (acc, hasConstructor)
    else
      let (t, isConstructor) ← classMember p hasConstructor
      return some (t :: acc, hasConstructor || isConstructor)
  expect "\x7d"
  return .node "ClassBody" [("body", .list members.reverse)]

/-- A class; `named` tells from the token ahead whether a name must stand there. -/
def classOf (p : Productions) (tag : String) (named : Lexeme → Bool) : Reading Tree :=
  within (fun c => { c with strict := true }) (fun b a => { a with strict := b.strict }) do
    expectWord "class"
    let id ← if named (← lexeme) then some <$> boundName none else pure none
    let superClass ←
      if ← seesWord "extends" then
        skip
        some <$> isolated p.leftHandSide
      else pure none
    return .node tag [("id", Build.optional id), ("superClass", Build.optional superClass), ("body", ← classBody p)]

/-- Whether a lexeme is a name. -/
def isName : Lexeme → Bool
  | .name _ => true
  | _ => false

/-- A class declaration. -/
def classDeclaration (p : Productions) (nameOptional : Bool) : Reading Tree :=
  classOf p "ClassDeclaration" fun l => !nameOptional || isName l

/-- A class expression. -/
def classExpression (p : Productions) : Reading Tree := classOf p "ClassExpression" isName

end Deflatten.Script.Grammar
