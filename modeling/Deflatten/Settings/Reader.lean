import Deflatten.Files.Access
import Deflatten.Json.Reader
import Deflatten.Settings.Basic
import Deflatten.Text.Utf8
/-!
# Reading settings

Settings are read from a JSON object. Names that no setting has are refused before anything else; then the members are
checked in their order, and at last the source type. A member without a value leaves its setting alone.
-/

namespace Deflatten

/-- The names of the settings. -/
inductive SettingName where
  | orderName
  | selectorName
  | sourceType
  | tolerant
  | lowerRanges
  | annotationPrefix
  | outputDirectory
  deriving DecidableEq, Repr

namespace SettingName

/-- A name as it is written. -/
def text : SettingName → String
  | .orderName => "control_flow_var"
  | .selectorName => "condition_var"
  | .sourceType => "source_type"
  | .tolerant => "tolerant"
  | .lowerRanges => "simplify_less_than"
  | .annotationPrefix => "annotation_prefix"
  | .outputDirectory => "output_dir"

/-- All names. -/
def all : List SettingName :=
  [.orderName, .selectorName, .sourceType, .tolerant, .lowerRanges, .annotationPrefix, .outputDirectory]

/-- The name that a text writes. -/
def ofText? (s : String) : Option SettingName := all.find? fun n => n.text == s

@[simp] theorem ofText?_text (n : SettingName) : ofText? n.text = some n := by cases n <;> rfl

end SettingName

/-- Why a settings file could not be read. -/
inductive SettingsError.Reason where
  | file (fault : FileFault)
  | octets (fault : Utf8.Fault)
  | json (fault : Json.Fault)
  deriving DecidableEq, Repr

/-- A reason as it is shown. -/
def SettingsError.Reason.message : SettingsError.Reason → String
  | .file fault => fault.message
  | .octets fault => fault.message
  | .json fault => fault.message

/-- Why settings are refused. -/
inductive SettingsError where
  | unknownNames (names : List String)
  | notBoolean (name : SettingName)
  | notText (name : SettingName)
  | notPath (name : SettingName)
  | badSourceType
  | unreadable (path : Path) (reason : SettingsError.Reason)
  | notObject (path : Path)
  deriving DecidableEq, Repr

/-- An error as it is shown. -/
def SettingsError.message : SettingsError → String
  | .unknownNames names => "unknown option(s): " ++ ", ".intercalate names
  | .notBoolean name => "option " ++ name.text ++ " must be a boolean"
  | .notText name => "option " ++ name.text ++ " must be a string"
  | .notPath name => "option " ++ name.text ++ " must be a path string"
  | .badSourceType => "option source_type must be 'script' or 'module'"
  | .unreadable path reason => "cannot read options from " ++ path.text ++ ": " ++ reason.message
  | .notObject path => "options file " ++ path.text ++ " must contain a JSON object"

namespace Overrides

/-- Adds the value of one setting. -/
def add (o : Overrides) (name : SettingName) (value : Json) : Except SettingsError Overrides :=
  match name, value with
  | _, .null => .ok o
  | .tolerant, .bool b => .ok { o with tolerant := some b }
  | .lowerRanges, .bool b => .ok { o with lowerRanges := some b }
  | .tolerant, _ => .error (.notBoolean .tolerant)
  | .lowerRanges, _ => .error (.notBoolean .lowerRanges)
  | .outputDirectory, .text s => .ok { o with outputDirectory := some (.ofText s) }
  | .outputDirectory, _ => .error (.notPath .outputDirectory)
  | .orderName, .text s => .ok { o with orderName := some s }
  | .selectorName, .text s => .ok { o with selectorName := some s }
  | .sourceType, .text s => .ok { o with sourceType := some s }
  | .annotationPrefix, .text s => .ok { o with annotationPrefix := some s }
  | name, _ => .error (.notText name)

/-- Adds the value of a member; a name that no setting has is passed over. -/
def addMember (o : Overrides) (member : String × Json) : Except SettingsError Overrides :=
  match SettingName.ofText? member.1 with
  | some name => o.add name member.2
  | none => .ok o

/-- The overrides that the members of an object give. -/
def ofMembers (members : List (String × Json)) : Except SettingsError Overrides := members.foldlM addMember {}

end Overrides

namespace Settings

/-- The names that no setting has, sorted. -/
def unknownNames (members : List (String × Json)) : List String :=
  ((members.map Prod.fst).filter fun s => (SettingName.ofText? s).isNone).mergeSort fun a b =>
    !Surrogate.precedes b a

/-- The settings that the members of an object give. -/
def ofMembers (members : List (String × Json)) : Except SettingsError Settings :=
  match unknownNames members with
  | [] => do
    let s := ({} : Settings).override (← Overrides.ofMembers members)
    if s.isReadable then return s else throw .badSourceType
  | names => .error (.unknownNames names)

/-- The settings that the content of a file gives. -/
def ofOctets (path : Path) (octets : List UInt8) : Except SettingsError Settings :=
  match Utf8.decode octets with
  | .error fault => .error (.unreadable path (.octets fault))
  | .ok cs =>
    match Json.parse (Utf8.plainLines cs) with
    | .error fault => .error (.unreadable path (.json fault))
    | .ok (.object members) => ofMembers members
    | .ok _ => .error (.notObject path)

/-- Reads settings from a file. -/
def load {m : Type → Type} [Monad m] [FileAccess m] (path : Path) : m (Except SettingsError Settings) := do
  match ← FileAccess.read path with
  | .error fault => return .error (.unreadable path (.file fault))
  | .ok octets => return ofOctets path octets

end Settings
end Deflatten
