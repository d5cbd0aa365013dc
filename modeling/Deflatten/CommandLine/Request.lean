import Deflatten.CommandLine.Flag
import Deflatten.Settings.Basic
/-!
# Requests

What a command line asks for. The plain words name the input, the order variable and the selector variable, in this
order; they are taken from the first plain words that stand together, and later ones are not recognized.
-/

namespace Deflatten.CommandLine

/-- What a command line asks for. -/
structure Request where
  input : Option String := none
  orderName : Option String := none
  selectorName : Option String := none
  config : Option Path := none
  outputDirectory : Option Path := none
  sourceType : Option String := none
  tolerant : Bool := false
  keepRanges : Bool := false
  verbose : Bool := false
  quiet : Bool := false
  deriving DecidableEq, Repr

/-- Why a command line leads to no request. -/
inductive NoRequest where
  | help
  | usage (error : UsageError)
  deriving DecidableEq, Repr

namespace Request

/-- The new settings that a request brings. -/
def overrides (r : Request) : Overrides where
  orderName := r.orderName
  selectorName := r.selectorName
  sourceType := r.sourceType
  tolerant := if r.tolerant then some true else none
  lowerRanges := if r.keepRanges then some false else none
  outputDirectory := r.outputDirectory

/-- The source types to choose from. -/
def sourceTypes : List String := ["script", "module"]

/-- A request with a flag that takes no value. -/
def turnOn (r : Request) (f : Flag) : Except NoRequest Request :=
  match f with
  | .help => .error .help
  | .tolerant => .ok { r with tolerant := true }
  | .keepRanges => .ok { r with keepRanges := true }
  | .verbose => if r.quiet then .error (.usage (.notAllowedWith f .quiet)) else .ok { r with verbose := true }
  | .quiet => if r.verbose then .error (.usage (.notAllowedWith f .verbose)) else .ok { r with quiet := true }
  | _ => .error (.usage (.valueMissing f))

/-- A request with a flag and its value. -/
def give (r : Request) (f : Flag) (value : String) : Except NoRequest Request :=
  match f with
  | .config => .ok { r with config := some (.ofText value) }
  | .outputDirectory => .ok { r with outputDirectory := some (.ofText value) }
  | .sourceType =>
    if sourceTypes.contains value then .ok { r with sourceType := some value }
    else .error (.usage (.notAChoice f value sourceTypes))
  | _ => .error (.usage (.valueIgnored f value))

/-- A request with a plain word at its place among the plain words. -/
def putPlain (r : Request) (place : Nat) (value : String) : Request :=
  match place with
  | 0 => { r with input := some value }
  | 1 => { r with orderName := some value }
  | _ => { r with selectorName := some value }

end Request

/-- The flags of one word of short flags, the first of them known. What is no flag is a value that the flag before it
does not take. -/
def shortFlags (f : Flag) : List Char → Except UsageError (List Flag)
  | [] => .ok [f]
  | c :: cs =>
    match Flag.ofSpelling? (String.ofList ['-', c]) with
    | none => .error (.valueIgnored f (String.ofList (c :: cs)))
    | some g => (shortFlags g cs).map (f :: ·)

/-- Where the reading of plain words stands: none was met, so many are taken, or others have come between. -/
inductive PlainWords where
  | ahead
  | taken (count : Nat)
  | over
  deriving DecidableEq, Repr

/-- How many plain words a request has room for. -/
def plainPlaces : Nat := 3

/-- A request in the making, and the words that were not recognized. -/
structure Progress where
  request : Request := {}
  plainWords : PlainWords := .ahead
  afterMark : Bool := false
  unrecognized : List String := []
  deriving Repr

namespace Progress

/-- Adds a word to those that are not recognized. -/
def refuse (p : Progress) (s : String) : Progress := { p with unrecognized := p.unrecognized ++ [s] }

/-- Ends the plain words if they have begun. -/
def endPlain (p : Progress) : Progress :=
  { p with plainWords := if p.plainWords = .ahead then .ahead else .over }

/-- Takes a plain word at its place. Two hyphens are a word only right after the mark. -/
def takeAt (p : Progress) (place : Nat) (s : String) : Progress :=
  let request := if s = "--" && !p.afterMark then p.request else p.request.putPlain place s
  { p with request, plainWords := .taken (place + 1), afterMark := false }

/-- Takes a plain word. -/
def takePlain (p : Progress) (s : String) : Progress :=
  match p.plainWords with
  | .ahead => p.takeAt 0 s
  | .taken count => if count < plainPlaces then p.takeAt count s else { p with plainWords := .over }.refuse s
  | .over => p.refuse s

/-- Takes the mark before plain words. -/
def takeMark (p : Progress) : Progress :=
  match p.plainWords with
  | .ahead => { p with plainWords := .taken 0, afterMark := true }
  | .taken _ => p
  | .over => p.refuse "--"

/-- Changes the request. -/
def change (p : Progress) (f : Request → Except NoRequest Request) : Except NoRequest Progress :=
  (f p.request).map fun request => { p with request }

/-- Takes a word of short flags. -/
def takeShort (p : Progress) (f : Flag) (more : List Char) : Except NoRequest Progress := do
  let fs ← (shortFlags f more).mapError .usage
  p.change fun r => fs.foldlM Request.turnOn r

/-- Takes all words. -/
def takeAll (p : Progress) : List Word → Except NoRequest Progress
  | [] => .ok p
  | .plain s :: ws => (p.takePlain s).takeAll ws
  | .mark :: ws => p.takeMark.takeAll ws
  | .unknown s :: ws => (p.endPlain.refuse s).takeAll ws
  | .flagWithValue f value :: ws => do (← p.endPlain.change (·.give f value)).takeAll ws
  | .shortFlags f more :: ws => do (← p.endPlain.takeShort f more).takeAll ws
  | .flag f :: ws =>
    if f.takesValue then
      match ws with
      | .plain value :: ws => do (← p.endPlain.change (·.give f value)).takeAll ws
      | _ => .error (.usage (.valueMissing f))
    else do (← p.endPlain.change (·.turnOn f)).takeAll ws

end Progress

/-- Reads a command line. -/
def Request.ofArguments (arguments : List String) : Except NoRequest Request := do
  let words ← (Word.ofTexts arguments).mapError .usage
  let p ← ({} : Progress).takeAll words
  if p.unrecognized.isEmpty then return p.request else throw (.usage (.unrecognized p.unrecognized))

end Deflatten.CommandLine
