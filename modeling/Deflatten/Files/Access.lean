import Deflatten.Files.Path
import Deflatten.Text.Utf8
/-!
# Access to files

What the program asks of a file system, and how a file system refuses. `FileAccess` is the interface; `Store` is a
file system held in memory.
-/

namespace Deflatten

/-- Why a file system refuses. -/
inductive FileRefusal where
  | notFound
  | exists
  | notDirectory
  | isDirectory
  | nameTooLong
  deriving DecidableEq, Repr

/-- The number and the words of a refusal. -/
def FileRefusal.words : FileRefusal → String
  | .notFound => "[Errno 2] No such file or directory"
  | .exists => "[Errno 17] File exists"
  | .notDirectory => "[Errno 20] Not a directory"
  | .isDirectory => "[Errno 21] Is a directory"
  | .nameTooLong => "[Errno 36] File name too long"

/-- Why nothing was done with a file: the file system refused the path, the path holds a null character, or it or the
content of the file cannot be written as octets. -/
inductive FileFault where
  | refused (refusal : FileRefusal) (path : Path)
  | nullCharacter
  | unwritable (what : Utf8.Unwritable)
  deriving DecidableEq, Repr

/-- A fault as it is shown. -/
def FileFault.message : FileFault → String
  | .refused refusal path => refusal.words ++ ": " ++ Quoted.quoted path.text
  | .nullCharacter => "embedded null byte"
  | .unwritable what => what.message

/-- Whether a fault is a refusal of the file system. -/
def FileFault.isRefusal : FileFault → Bool
  | .refused _ _ => true
  | _ => false

namespace Path

/-- Whether a surrogate is an octet that is not part of UTF-8, which the name of a file may hold. -/
def isOctet (c : Nat) : Bool := 0xdc80 ≤ c && c ≤ 0xdcff

/-- Why no file system can be asked for a path. -/
def fault? (p : Path) : Option FileFault :=
  match Utf8.unwritable? isOctet 0 p.text.toList with
  | some u => some (.unwritable u)
  | none => if p.text.toList.contains '\x00' then some .nullCharacter else none

/-- How many octets a text takes in the name of a file. -/
def octetCount (s : String) : Nat :=
  s.toList.foldl (fun count c => count + if Surrogate.isHeld c then 1 else c.utf8Size) 0

/-- The most octets of one name. -/
def maxName : Nat := 255

/-- The most octets of a path. -/
def maxPath : Nat := 4095

end Path

/-- A file system as the program sees it. -/
class FileAccess (m : Type → Type) where
  /-- Whether a path leads to a file. -/
  isFile : Path → m (Except FileFault Bool)
  /-- The octets of a file. -/
  read : Path → m (Except FileFault (List UInt8))
  /-- Makes a directory and those above it. One that is there already is left as it is. -/
  makeDirectory : Path → m (Except FileFault Unit)
  /-- Gives a file its content, whether it is there or not. -/
  write : Path → String → m (Except FileFault Unit)

end Deflatten
