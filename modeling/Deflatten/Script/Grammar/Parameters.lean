import Deflatten.Script.Grammar.Build
import Deflatten.Script.Grammar.State
/-!
# Parameters

What is known of a function's parameters before its body is read. A name that only strict code forbids is kept as a
doubt until the body has told whether it is strict.
-/

namespace Deflatten.Script.Grammar

/-- A fault that counts in strict code only. Without a line it is reported on the line of the last token. -/
structure Doubt where
  line : Option Nat
  cause : Fault.Cause

/-- The parameters read so far. `doubt` is what the name of the function or a parameter leaves open, `strictFault` what
is wrong with a parameter in strict code or by repetition. -/
structure Parameters where
  list : List Tree := []
  names : List String := []
  simple : Bool := true
  doubt : Option Doubt := none
  strictFault : Option Doubt := none

namespace Parameters

/-- Adds a name that a parameter binds. -/
def bind (ps : Parameters) (strict : Bool) (line : Option Nat) (name : String) : Parameters :=
  let restricted := Words.restricted.contains name
  let repeated := ps.names.contains name
  let ps :=
    if strict then
      if repeated then { ps with strictFault := some ⟨line, .strictRepeatedParameter⟩ }
      else if restricted then { ps with strictFault := some ⟨line, .strictParameterName⟩ }
      else ps
    else if ps.doubt.isSome then ps
    else if restricted then { ps with doubt := some ⟨line, .strictParameterName⟩ }
    else if Words.strict.contains name then { ps with doubt := some ⟨line, .strictReserved⟩ }
    else if repeated then { ps with strictFault := some ⟨line, .strictRepeatedParameter⟩ }
    else ps
  { ps with names := name :: ps.names }

/-- Adds a parameter; only plain names keep a list simple. -/
def push (ps : Parameters) (t : Tree) : Parameters :=
  { ps with list := ps.list ++ [t], simple := ps.simple && t.hasTag Tag.name }

/-- Whether a parameter is repeated and nothing else is in doubt. -/
def isRepeated (ps : Parameters) (strict : Bool) : Bool :=
  (strict || ps.doubt.isNone) && ps.strictFault.any fun d => d.cause == .strictRepeatedParameter

end Parameters

/-! ## The names that a pattern binds -/

mutual

/-- The names that a pattern binds. -/
def boundNames : Tree → List String
  | .node tag fs =>
    if tag == Tag.name then ((fs.lookup "name").bind Tree.text?).toList
    else if ["RestElement", "AssignmentPattern", "ArrayPattern", "ObjectPattern", "Property"].contains tag then
      boundFieldNames tag fs
    else []
  | .list ts => boundItemNames ts
  | _ => []

/-- The names that the fields of a pattern bind. -/
def boundFieldNames (tag : String) : List (String × Tree) → List String
  | [] => []
  | (field, value) :: fs =>
    let holds := [("RestElement", "argument"), ("AssignmentPattern", "left"), ("ArrayPattern", "elements"),
      ("ObjectPattern", "properties"), ("Property", "value")].contains (tag, field)
    (if holds then boundNames value else []) ++ boundFieldNames tag fs

/-- The names that patterns in a list bind. -/
def boundItemNames : List Tree → List String
  | [] => []
  | t :: ts => boundNames t ++ boundItemNames ts

end

/-! ## The parameters of an arrow function -/

/-- A parameter with `yield` for its default has the name `yield` for it. -/
def arrowParameter (t : Tree) : Reading Tree := do
  let right := t.get "right"
  if t.hasTag "AssignmentPattern" && right.hasTag "YieldExpression" then
    if !(right.get "argument").isNull then surprised
    return t.set "right" (Build.name "yield")
  else return t

/-- The parameters that an expression before an arrow stands for; `none` if it can stand for none. -/
def arrowParameters (t : Tree) : Reading (Option Parameters) := do
  let isHead := t.hasTag "ArrowParameterPlaceHolder"
  if !isHead && !t.hasTag Tag.name then return none
  let strict ← askScope Scope.strict
  let isAsync := (t.get "async").isSet
  let mut ps : Parameters := {}
  for param in (if isHead then (t.get "params").items else [t]) do
    if isAsync && param.hasTag Tag.name && boundNames param == ["await"] then surprised
    let param ← arrowParameter param
    ps := ((boundNames param).foldl (fun ps n => ps.bind strict none n) ps).push param
  if strict || !(← askScope Scope.allowYield) then
    if ps.list.any (·.hasTag "YieldExpression") then surprised
  if ps.isRepeated strict then refuse .strictRepeatedParameter
  return some ps

/-- Checks, once the body of a function has been read, what was left open. -/
def settle (ps : Parameters) (final : Bool) : Reading Unit := do
  if ← askScope Scope.strict then
    let lastLine := (← get).lastLine
    let line (d : Doubt) := d.line.getD lastLine
    if let some d := ps.doubt then
      if final then failAt (line d) d.cause else tolerateAt (line d) d.cause
    if let some d := ps.strictFault then tolerateAt (line d) d.cause

end Deflatten.Script.Grammar
