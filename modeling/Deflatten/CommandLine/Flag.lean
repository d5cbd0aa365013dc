import Deflatten.Text.Digits
import Deflatten.Text.Quoted
/-!
# Flags

The flags of the command line, the words by which each may be given, and the reading of one word. A long flag may be
cut short as long as no other begins in the same way, and may carry a value after `=`; a short flag may be followed by
more of them in the same word, with or without `=` between the first and the second.
-/

namespace Deflatten.CommandLine

/-- A flag. -/
inductive Flag where
  | help
  | config
  | outputDirectory
  | sourceType
  | tolerant
  | keepRanges
  | verbose
  | quiet
  deriving DecidableEq, Repr

namespace Flag

/-- The words by which a flag may be given. -/
def spellings : Flag → List String
  | .help => ["-h", "--help"]
  | .config => ["--config"]
  | .outputDirectory => ["--output-dir"]
  | .sourceType => ["--source-type"]
  | .tolerant => ["--tolerant"]
  | .keepRanges => ["--no-simplify"]
  | .verbose => ["-v", "--verbose"]
  | .quiet => ["-q", "--quiet"]

/-- All flags. -/
def all : List Flag := [.help, .config, .outputDirectory, .sourceType, .tolerant, .keepRanges, .verbose, .quiet]

/-- A flag as it is shown. -/
def text (f : Flag) : String := "/".intercalate f.spellings

/-- Whether a flag takes a value. -/
def takesValue : Flag → Bool
  | .config | .outputDirectory | .sourceType => true
  | _ => false

/-- All spellings, each with its flag. -/
def table : List (String × Flag) := all.flatMap fun f => f.spellings.map (·, f)

/-- The flag of a spelling. -/
def ofSpelling? (s : String) : Option Flag := table.lookup s

end Flag

/-- Why a command line is refused. -/
inductive UsageError where
  | valueMissing (flag : Flag)
  | valueIgnored (flag : Flag) (value : String)
  | notAChoice (flag : Flag) (value : String) (choices : List String)
  | notAllowedWith (flag other : Flag)
  | ambiguous (word : String) (spellings : List String)
  | unrecognized (words : List String)
  deriving DecidableEq, Repr

namespace UsageError

/-- An error about a flag. -/
def aboutFlag (flag : Flag) (text : String) : String := "argument " ++ flag.text ++ ": " ++ text

/-- An error as it is shown. -/
def message : UsageError → String
  | .valueMissing flag => aboutFlag flag "expected one argument"
  | .valueIgnored flag value => aboutFlag flag ("ignored explicit argument " ++ Quoted.quoted value)
  | .notAChoice flag value choices =>
    aboutFlag flag ("invalid choice: " ++ Quoted.quoted value ++ " (choose from " ++
      ", ".intercalate (choices.map Quoted.quoted) ++ ")")
  | .notAllowedWith flag other => aboutFlag flag ("not allowed with argument " ++ other.text)
  | .ambiguous word spellings => "ambiguous option: " ++ word ++ " could match " ++ ", ".intercalate spellings
  | .unrecognized words => "unrecognized arguments: " ++ " ".intercalate words

end UsageError

/-- What a word of the command line is: a flag with what follows it in the word, an unknown flag, a plain word, or the
mark after which all words are plain. -/
inductive Word where
  | flag (flag : Flag)
  | flagWithValue (flag : Flag) (value : String)
  | shortFlags (flag : Flag) (more : List Char)
  | unknown (text : String)
  | plain (text : String)
  | mark
  deriving DecidableEq, Repr

namespace Word

/-- The text before the first equals sign, and the text after it if there is one. -/
def splitValue (cs : List Char) : List Char × Option (List Char) :=
  match cs.dropWhile (· != '=') with
  | [] => (cs, none)
  | _ :: value => (cs.takeWhile (· != '='), some value)

/-- Whether a word looks like a negative number, in digits of any script. A line end after it does not matter. -/
def isNegativeNumber (cs : List Char) : Bool :=
  let cs := if cs.getLast? = some '\n' then cs.dropLast else cs
  match cs with
  | '-' :: ds =>
    (!ds.isEmpty && ds.all Digits.isDigit) ||
      match ds.dropWhile Digits.isDigit with
      | '.' :: es => !es.isEmpty && es.all Digits.isDigit
      | _ => false
  | _ => false

/-- A flag, with a value if one is given. -/
def withValue (f : Flag) : Option (List Char) → Word
  | none => .flag f
  | some value => .flagWithValue f (String.ofList value)

/-- A word that is no flag although it begins with a hyphen. -/
def other (cs : List Char) : Word :=
  if isNegativeNumber cs || cs.contains ' ' then .plain (String.ofList cs) else .unknown (String.ofList cs)

/-- Reads a word that begins with two hyphens and is no spelling by itself. -/
def ofLong (cs : List Char) : Except UsageError Word :=
  let (name, value) := splitValue cs
  match Flag.table.filter fun (spelling, _) => name.isPrefixOf spelling.toList with
  | [] => .ok (other cs)
  | [(_, f)] => .ok (withValue f value)
  | several => .error (.ambiguous (String.ofList cs) (several.map Prod.fst))

/-- Reads a word that begins with one hyphen and is no spelling by itself. -/
def ofShort (cs : List Char) : Word :=
  match Flag.ofSpelling? (String.ofList (cs.take 2)) with
  | some f => .shortFlags f (cs.drop 2)
  | none => other cs

/-- A flag with what follows it after `=`. Behind a short flag these are more short flags, if they are anything. -/
def afterEquals (f : Flag) (isLong : Bool) (value : List Char) : Word :=
  if isLong || value.isEmpty then .flagWithValue f (String.ofList value) else .shortFlags f value

/-- Reads a word that begins with a hyphen. -/
def ofHyphened (cs : List Char) : Except UsageError Word :=
  let isLong := ['-', '-'].isPrefixOf cs
  let (name, value) := splitValue cs
  match Flag.ofSpelling? (String.ofList cs), Flag.ofSpelling? (String.ofList name) with
  | some f, _ => .ok (.flag f)
  | none, some f => .ok (afterEquals f isLong (value.getD []))
  | none, none => if isLong then ofLong cs else .ok (ofShort cs)

/-- Reads a word. -/
def ofText (s : String) : Except UsageError Word :=
  match s.toList with
  | '-' :: c :: cs => ofHyphened ('-' :: c :: cs)
  | _ => .ok (.plain s)

/-- Reads the words of a command line. -/
def ofTexts : List String → Except UsageError (List Word)
  | [] => .ok []
  | s :: ss => do
    if s = "--" then return .mark :: ss.map .plain
    return (← ofText s) :: (← ofTexts ss)

end Word
end Deflatten.CommandLine
