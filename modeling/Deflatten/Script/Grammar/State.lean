import Deflatten.Script.Lexer.Basic
/-!
# Reading with one token ahead

A reader of a script holds the next token, the place behind it and a scope: what the code around allows. `Reading` is
a step of it. `next` takes a token, `expect` a given one; `refuse` and `tolerate` report a fault, the latter passed
over in tolerant reading. `repeatFrom` is a loop whose rounds are bounded, so no reader can run on for ever.
-/

namespace Deflatten.Script.Grammar

/-- What the code around a place allows. `isTarget` and `isBinding` tell whether what was just read could be assigned
to or bound; `shorthandInit` is the `=` of a property that only a pattern may have. -/
structure Scope where
  strict : Bool := false
  inModule : Bool := false
  allowIn : Bool := true
  allowYield : Bool := true
  allowAwait : Bool := false
  allowStrictDirective : Bool := true
  inFunction : Bool := false
  inLoop : Bool := false
  inSwitch : Bool := false
  labels : List String := []
  isTarget : Bool := false
  isBinding : Bool := false
  shorthandInit : Option Token := none

/-- Where a reader stands. `cursor` is the place behind the token ahead and `tokenStart` the place where that token
begins; `lastLine` is the line of the last token taken. `rounds` bounds every loop. -/
structure State where
  mode : Mode
  cursor : Cursor
  tokenStart : Cursor
  ahead : Token
  lineBreak : Bool
  lastLine : Nat
  scope : Scope
  rounds : Nat

/-- A step of reading. -/
abbrev Reading := StateT State (Except Fault)

/-! ## Faults -/

/-- Stops with a fault on a line. -/
def failAt {α : Type} (line : Nat) (cause : Fault.Cause) : Reading α := throw ⟨line, cause⟩

/-- Stops with a fault on the line of the last token. -/
def refuse {α : Type} (cause : Fault.Cause) : Reading α := do failAt (← get).lastLine cause

/-- Stops at a token that no message can show, whatever else would be said of it. -/
def requireWritable (t : Token) : Reading Unit := do
  unless t.lexeme.isWritable do failAt t.line .longInteger

/-- Stops at a token that cannot stand where it does. -/
def surprisedBy {α : Type} (t : Token) : Reading α := do
  requireWritable t
  failAt t.line (t.lexeme.surprise (← get).scope.strict)

/-- Stops at the token ahead. -/
def surprised {α : Type} : Reading α := do surprisedBy (← get).ahead

/-- Reports a fault that tolerant reading passes over. -/
def tolerateAt (line : Nat) (cause : Fault.Cause) : Reading Unit := do
  unless (← get).mode.tolerant do failAt line cause

/-- Reports, where reading has arrived, a fault that tolerant reading passes over. -/
def tolerate (cause : Fault.Cause) : Reading Unit := do tolerateAt (← get).cursor.line cause

/-- Reports a fault of a token that tolerant reading passes over. -/
def tolerateToken (t : Token) (cause : Fault.Cause) : Reading Unit := do
  requireWritable t
  tolerateAt t.line cause

/-- Reports a token that only tolerant reading passes over. -/
def tolerateSurprise (t : Token) : Reading Unit := do
  requireWritable t
  unless (← get).mode.tolerant do surprisedBy t

/-! ## Tokens -/

/-- Takes the token ahead and reads the one after it. -/
def next : Reading Token := do
  let s ← get
  let start ← s.cursor.skipBlanks s.mode
  let (t, cursor) ← start.lex s.mode
  -- Which names are reserved depends on the mode in which the token is read, not on the one in which it is used.
  let ahead := if s.scope.strict then { t with lexeme := t.lexeme.inStrict } else t
  set { s with cursor, ahead, tokenStart := start, lineBreak := s.ahead.line != t.line, lastLine := s.cursor.line }
  return s.ahead

/-- Takes the token ahead and forgets it. -/
def skip : Reading Unit := do let _ ← next

/-- The lexeme ahead. -/
def lexeme : Reading Lexeme := return (← get).ahead.lexeme

/-- Whether a mark is ahead. -/
def sees (mark : String) : Reading Bool := return (← lexeme) == .mark mark

/-- Whether one of some marks is ahead. -/
def seesAny (marks : List String) : Reading Bool := do
  let l ← lexeme
  return marks.any fun m => l == .mark m

/-- Whether a reserved word is ahead. -/
def seesWord (word : String) : Reading Bool := return (← lexeme) == .keyword word

/-- Whether a name with a meaning of its own is ahead. -/
def seesName (name : String) : Reading Bool := return (← lexeme) == .name name

/-- Whether the script is at its end. -/
def atEnd : Reading Bool := return (← lexeme) == .endOfInput

/-- Whether a line ends before the token ahead. -/
def afterLineBreak : Reading Bool := return (← get).lineBreak

/-- Takes a mark that must stand here. -/
def expect (mark : String) : Reading Unit := do
  let t ← next
  unless t.lexeme == .mark mark do surprisedBy t

/-- Takes a reserved word that must stand here. -/
def expectWord (word : String) : Reading Unit := do
  let t ← next
  unless t.lexeme == .keyword word do surprisedBy t

/-- Takes a comma between items; tolerant reading takes a semicolon for it, or nothing. -/
def expectComma : Reading Unit := do
  if (← get).mode.tolerant then
    if ← seesAny [",", ";"] then skip else tolerateSurprise (← get).ahead
  else expect ","

/-- Takes the parenthesis that closes a head; tolerant reading takes any token for it. Tells whether it stood there. -/
def closeHead : Reading Bool := do
  if !(← sees ")") && (← get).mode.tolerant then
    tolerateSurprise (← next)
    return false
  else
    expect ")"
    return true

/-- Takes the end of a statement: a semicolon, or nothing before a line break, a brace or the end. -/
def endStatement : Reading Unit := do
  if ← sees ";" then skip
  else if !(← afterLineBreak) then
    unless (← atEnd) || (← sees "\x7d") do surprised
    modify fun s => { s with lastLine := s.tokenStart.line }

/-- The lexeme after the token ahead, read without moving on, and the line that it ends on. -/
def peekNext : Reading Token := do
  let s ← get
  let (t, cursor) ← s.cursor.peek s.mode
  set { s with cursor }
  return t

/-! ## Scopes -/

/-- Something of the scope. -/
def askScope {α : Type} (f : Scope → α) : Reading α := return f (← get).scope

/-- Changes the scope. -/
def modifyScope (f : Scope → Scope) : Reading Unit := modify fun s => { s with scope := f s.scope }

/-- Reads in a changed scope; `back before after` is the scope that is left. -/
def within {α : Type} (enter : Scope → Scope) (back : Scope → Scope → Scope) (body : Reading α) : Reading α := do
  let before ← askScope id
  modifyScope enter
  let a ← body
  modifyScope (back before)
  return a

/-- Notes that what was just read can be neither assigned to nor bound. -/
def plainValue : Reading Unit := modifyScope fun c => { c with isTarget := false, isBinding := false }

/-- Notes that what was just read can be assigned to but not bound. -/
def memberTarget : Reading Unit := modifyScope fun c => { c with isTarget := true, isBinding := false }

/-- The scope in which a part that may yet become a pattern is begun. -/
def fresh (c : Scope) : Scope := { c with isTarget := true, isBinding := true, shorthandInit := none }

/-- Reads a part that is a value of its own: what it could be assigned to does not matter outside, and a property that
only a pattern may have is a fault. -/
def isolated {α : Type} (body : Reading α) : Reading α :=
  within fresh
    (fun b a => { a with isTarget := b.isTarget, isBinding := b.isBinding, shorthandInit := b.shorthandInit })
    do
      let a ← body
      match ← askScope Scope.shorthandInit with
      | some t => surprisedBy t
      | none => return a

/-- Reads a part that decides with the rest whether the whole can be a pattern. -/
def inherited {α : Type} (body : Reading α) : Reading α :=
  within fresh (fun b a => { a with
    isTarget := a.isTarget && b.isTarget
    isBinding := a.isBinding && b.isBinding
    shorthandInit := b.shorthandInit <|> a.shorthandInit }) body

/-- Reads with the operator `in` allowed or not. -/
def allowingIn {α : Type} (allow : Bool) (body : Reading α) : Reading α :=
  within (fun c => { c with allowIn := allow }) (fun b a => { a with allowIn := b.allowIn }) body

/-- Reads with `yield` as a name or not. -/
def allowingYield {α : Type} (allow : Bool) (body : Reading α) : Reading α :=
  within (fun c => { c with allowYield := allow }) (fun b a => { a with allowYield := b.allowYield }) body

/-- Reads the body of a loop. -/
def looping {α : Type} (body : Reading α) : Reading α :=
  within (fun c => { c with inLoop := true }) (fun b a => { a with inLoop := b.inLoop }) body

/-! ## Loops -/

/-- Repeats a step until it has no more to do, in at most the given number of rounds. -/
def repeatFrom {α : Type} (step : α → Reading (Option α)) : Nat → α → State → Except Fault (α × State)
  | 0, _, s => .error ⟨s.cursor.line, .tooDeep⟩
  | rounds + 1, a, s =>
    match step a s with
    | .error e => .error e
    | .ok (none, s) => .ok (a, s)
    | .ok (some b, s) => repeatFrom step rounds b s

/-- Repeats a step until it has no more to do. A step takes a token, so no more are needed than characters. -/
def repeating {α : Type} (a : α) (step : α → Reading (Option α)) : Reading α :=
  fun s => repeatFrom step s.rounds a s

/-- Collects items until there is none. -/
def collect {α : Type} (item : Reading (Option α)) : Reading (List α) := do
  let items ← repeating [] fun acc => return (← item).map (· :: acc)
  return items.reverse

/-- Collects items up to a mark, which is left ahead. -/
def collectUntil {α : Type} (mark : String) (item : Reading α) : Reading (List α) :=
  collect do if ← sees mark then return none else return some (← item)

end Deflatten.Script.Grammar
