import Deflatten.Script.Pattern.Escape
import Deflatten.Script.Pattern.InlineFlags
import Deflatten.Script.Pattern.Width
/-!
# Well-formed patterns

`Pattern.isValid` checks a pattern: groups close, a repetition follows something that can be repeated and is not itself
repeated, a reference names a group that has closed, a condition a group that there is, an escaped letter has a meaning,
and what is looked for behind has one length.
-/

namespace Deflatten.Script.Pattern

/-- What stands last in a sequence: nothing, a place between characters, something repeated, or something else. -/
inductive Last where
  | nothing
  | place
  | repetition
  | item
  deriving DecidableEq, Repr

/-- How far a check has come: what follows, how many groups have opened, the widths of those that have closed, the
names of groups, the flags for the whole pattern, how many groups had opened where looking behind began, the groups that
conditions ask for, and whether anything is repeated. -/
structure Progress where
  rest : List Piece
  opened : Nat := 0
  closed : List (Nat × Width) := []
  names : List (List Nat × Nat) := []
  flags : List Nat := []
  behind : Option Nat := none
  conditions : List Nat := []
  repeats : Bool := false

namespace Progress

/-- Takes the piece ahead if it is a given character. -/
def take? (p : Progress) (c : Char) : Option Progress :=
  match p.rest with
  | .plain d :: rest => if d = code c then some { p with rest } else none
  | _ => none

/-- Whether a group has closed, before looking behind began if that is what goes on. -/
def mayRefer (p : Progress) (group : Nat) : Bool :=
  (p.closed.lookup group).isSome && p.behind.all fun n => group ≤ n

/-- The width of a group that may be referred to. -/
def widthOf? (p : Progress) (group : Nat) : Option Width :=
  if p.mayRefer group then p.closed.lookup group else none

/-- Opens a group, which may have a name that no other has. -/
def openGroup? (p : Progress) (name : Option (List Nat)) : Option Progress :=
  let p := { p with opened := p.opened + 1 }
  match name with
  | none => some p
  | some n => if (p.names.lookup n).isSome then none else some { p with names := (n, p.opened) :: p.names }

/-- Closes a group. -/
def closeGroup (p : Progress) (group : Nat) (w : Width) : Progress := { p with closed := (group, w) :: p.closed }

/-- Notes where looking behind begins, unless that has begun. -/
def lookBehind (p : Progress) : Progress := { p with behind := some (p.behind.getD p.opened) }

end Progress

/-! ## Escapes outside a class -/

/-- A reference to a group by number, after its first digit: one more digit may belong to it, and three octal digits
are a character. -/
def reference (p : Progress) (c : Nat) (ps : List Piece) : Option (Width × List Piece) :=
  match ps with
  | .plain d :: rest =>
    if isDigit d then
      let (value, after) := octalDigits 3 0 (.plain c :: ps)
      if after.length + 2 = ps.length then
        if value ≤ lastOctal then some (.exactly 1, after) else none
      else (p.widthOf? (decimal [c, d])).map (·, rest)
    else (p.widthOf? (decimal [c])).map (·, ps)
  | _ => (p.widthOf? (decimal [c])).map (·, ps)

/-- Checks an escape outside a class. -/
def escape (p : Progress) (c : Nat) (ps : List Piece) : Option (Last × Width × List Piece) :=
  if namesPlace c then some (.place, .exactly 0, ps)
  else if namesSet c then some (.item, .exactly 1, ps)
  else if c = code '0' then some (.item, .exactly 1, (octalDigits 2 0 ps).2)
  else if isDigit c then (reference p c ps).map fun (w, rest) => (.item, w, rest)
  else (escapedCharacter c ps).map fun (_, rest) => (.item, .exactly 1, rest)

/-! ## Repetitions -/

/-- A repetition may have no bound as great as this. -/
def tooOften : Nat := 0xffffffff

/-- The bounds of the repetition that a mark asks for, and what follows; `none` if the mark is a plain character. -/
def repetition? (c : Nat) (ps : List Piece) : Option (Option Nat × Option Nat × List Piece) :=
  if c = code '*' then some (some 0, none, ps)
  else if c = code '+' then some (some 1, none, ps)
  else if c = code '?' then some (some 0, some 1, ps)
  else if c = code '\x7b' then bounds? ps
  else none

/-- Whether the bounds of a repetition are in order. -/
def areBounds (low high : Option Nat) : Bool :=
  low.all (· < tooOften) && high.all fun h => h < tooOften && low.getD 0 ≤ h

/-- What follows the mark that tells how eager a repetition is. -/
def afterEagerness (ps : List Piece) : List Piece :=
  if ps.head?.any fun q => q == .plain (code '?') || q == .plain (code '+') then ps.drop 1 else ps

/-! ## Blanks and comments -/

/-- What follows the line on which a comment stands. -/
def afterLine (ps : List Piece) : List Piece := (ps.dropWhile (· != .plain (code '\n'))).drop 1

/-- What follows a comment in parentheses, after its opening; `none` if it does not close. -/
def afterComment? : List Piece → Option (List Piece)
  | [] => none
  | p :: ps => if p = .plain (code ')') then some ps else afterComment? ps

/-- Whether a character counts for nothing where a pattern is spaced out. -/
def isSpacing (c : Nat) : Bool := isAmong " \t\n\r\x0b\x0c" c

/-! ## Conditions -/

/-- The group that a condition asks for, by name or by number, and the progress after its parenthesis. A group that is
asked for by number may be one to come. -/
def condition? (p : Progress) : Option Progress := do
  let (name, rest) ← until? ')' p.rest
  let group ←
    if isGroupName name then p.names.lookup name else (groupNumber? name).filter (· ≠ 0)
  guard (p.behind.isNone || p.mayRefer group)
  return { p with rest, conditions := group :: p.conditions }

/-! ## Parts of a pattern -/

mutual

/-- Checks alternatives up to a closing parenthesis or the end. `isWhole` tells that they are the whole pattern,
`isFirst` that nothing stands before them, and `spaced` that blanks count for nothing. -/
def alternatives : Nat → Bool → Bool → Bool → Progress → Option (Width × Progress)
  | 0, _, _, _, _ => none
  | rounds + 1, isWhole, isFirst, spaced, p => do
    let (w, p) ← sequence rounds isFirst spaced .nothing (.exactly 0) (.exactly 0) p
    match p.take? '|' with
    | none => return (w, p)
    | some p =>
      let spaced := if isWhole then p.flags.contains spacedOut else spaced
      let (v, p) ← alternatives rounds isWhole false spaced p
      return (w.either v, p)

/-- Checks one alternative. `width` is that of what stands before the last item, `tail` that of the last item. -/
def sequence : Nat → Bool → Bool → Last → Width → Width → Progress → Option (Width × Progress)
  | 0, _, _, _, _, _, _ => none
  | rounds + 1, isFirst, spaced, last, width, tail, p =>
    let next (l : Last) (w : Width) (q : Progress) := sequence rounds isFirst spaced l (width.append tail) w q
    match p.rest with
    | [] => some (width.append tail, p)
    | .escaped c :: ps => do
      let (l, w, rest) ← escape p c ps
      next l w { p with rest }
    | .plain c :: ps =>
      if isAmong "|)" c then some (width.append tail, p)
      else if spaced && isSpacing c then sequence rounds isFirst spaced last width tail { p with rest := ps }
      else if spaced && c = code '#' then sequence rounds isFirst spaced last width tail { p with rest := afterLine ps }
      else if c = code '[' then do next .item (.exactly 1) { p with rest := ← classTail ps }
      else if isAmong "^$" c then next .place (.exactly 0) { p with rest := ps }
      else if c = code '(' then
        match ps with
        | .plain d :: qs =>
          if d = code '?' then special rounds isFirst spaced last width tail { p with rest := qs }
          else do
            let (w, p) ← capture rounds spaced none { p with rest := ps }
            next .item w p
        | _ => do
          let (w, p) ← capture rounds spaced none { p with rest := ps }
          next .item w p
      else
        match repetition? c ps with
        | none => next .item (.exactly 1) { p with rest := ps }
        | some (low, high, rest) =>
          if last = .item && areBounds low high then
            sequence rounds isFirst spaced .repetition width (tail.repeated (low.getD 0) high)
              { p with rest := afterEagerness rest, repeats := true }
          else none

/-- Checks what begins with a parenthesis and a question mark, and the rest of the alternative after it. -/
def special : Nat → Bool → Bool → Last → Width → Width → Progress → Option (Width × Progress)
  | 0, _, _, _, _, _, _ => none
  | rounds + 1, isFirst, spaced, last, width, tail, p =>
    let next (w : Width) (q : Progress) := sequence rounds isFirst spaced .item (width.append tail) w q
    let inside (spaced : Bool) (q : Progress) : Option (Width × Progress) := do
      let (w, q) ← alternatives rounds false false spaced q
      return (w, ← q.take? ')')
    match p.rest with
    | .plain c :: ps =>
      let p := { p with rest := ps }
      if c = code '#' then do
        sequence rounds isFirst spaced last width tail { p with rest := ← afterComment? ps }
      else if isAmong ":>" c then do
        let (w, p) ← inside spaced p
        next w p
      else if isAmong "=!" c then do
        let (_, p) ← inside spaced p
        next (.exactly 0) p
      else if c = code '<' then do
        let q ← (p.take? '=').or (p.take? '!')
        let (w, q) ← inside spaced q.lookBehind
        if w.mayBeBehind then next (.exactly 0) { q with behind := p.behind } else none
      else if c = code '(' then do
        let (w, p) ← conditional rounds spaced (← condition? p)
        next w p
      else if c = code 'P' then
        match p.take? '<', p.take? '=' with
        | some p, _ => do
          let (name, rest) ← until? '>' p.rest
          guard (isGroupName name)
          let (w, p) ← capture rounds spaced (some name) { p with rest }
          next w p
        | none, some p => do
          let (name, rest) ← until? ')' p.rest
          next (← (p.names.lookup name).bind p.widthOf?) { p with rest }
        | none, none => none
      else do
        let (flags, rest) ← inlineFlags (.plain c :: ps)
        if flags.forAll then
          guard (isFirst && last = .nothing)
          let p := { p with rest, flags := flags.on ++ p.flags }
          sequence rounds isFirst (p.flags.contains spacedOut) last width tail p
        else
          let spaced := (spaced || flags.on.contains spacedOut) && !flags.off.contains spacedOut
          let (w, p) ← inside spaced { p with rest }
          next w p
    | _ => none

/-- Checks a group that can be referred to, after its opening. -/
def capture : Nat → Bool → Option (List Nat) → Progress → Option (Width × Progress)
  | 0, _, _, _ => none
  | rounds + 1, spaced, name, p => do
    let p ← p.openGroup? name
    let (w, q) ← alternatives rounds false false spaced p
    let q ← q.take? ')'
    return (w, q.closeGroup p.opened w)

/-- Checks the one or two branches of a condition. Without the second, nothing may be matched. -/
def conditional : Nat → Bool → Progress → Option (Width × Progress)
  | 0, _, _ => none
  | rounds + 1, spaced, p => do
    let (w, p) ← sequence rounds false spaced .nothing (.exactly 0) (.exactly 0) p
    match p.take? '|' with
    | none => return (w.either (.exactly 0), ← p.take? ')')
    | some p =>
      let (v, p) ← sequence rounds false spaced .nothing (.exactly 0) (.exactly 0) p
      return (w.either v, ← p.take? ')')

end

/-- Whether a pattern is well formed. At each piece at most five steps are taken before the next. -/
def isValid (pattern : List Char) : Bool :=
  match read? pattern with
  | none => false
  | some ps =>
    match alternatives (5 * ps.length + 5) true true false { rest := ps } with
    | none => false
    | some (_, p) =>
      p.rest.isEmpty && areCompatible p.flags && p.conditions.all (· ≤ p.opened) &&
        !(p.repeats && p.flags.contains withoutRepetition)

end Deflatten.Script.Pattern
