import Deflatten.Files.Access
/-!
# Files in memory

A `Store` is a file system without links: what stands at each place, and the place from which relative paths start. A
path is followed name by name, and every place on the way must be a directory, also before a double dot. A name in the
way may not be too long, nor the whole path.
-/

namespace Deflatten

/-- A place in a file system: the names that lead to it from the top. -/
abbrev Place := List String

/-- What stands at a place. -/
inductive Entry where
  | file (content : List UInt8)
  | directory
  deriving DecidableEq, Repr

/-- A file system in memory. The top is always a directory. -/
structure Store where
  current : Place
  entries : List (Place × Entry)
  deriving DecidableEq, Repr

namespace Store

/-- What stands at a place. -/
def holds? (s : Store) (place : Place) : Option Entry :=
  if place = [] then some .directory else s.entries.lookup place

/-- Puts something at a place, instead of what was there. -/
def putEntry (place : Place) (e : Entry) : List (Place × Entry) → List (Place × Entry)
  | [] => [(place, e)]
  | (q, f) :: es => if q = place then (q, e) :: es else (q, f) :: putEntry place e es

/-- A store with something at a place. -/
def put (s : Store) (place : Place) (e : Entry) : Store := { s with entries := putEntry place e s.entries }

/-- The place that names lead to from another place. -/
def follow (s : Store) (place : Place) : List String → Except FileRefusal Place
  | [] => .ok place
  | name :: names =>
    match s.holds? place with
    | none => .error .notFound
    | some (.file _) => .error .notDirectory
    | some .directory =>
      if Path.maxName < Path.octetCount name then .error .nameTooLong
      else s.follow (if name = ".." then place.dropLast else place ++ [name]) names

/-- The place that a path leads to. -/
def place (s : Store) (p : Path) : Except FileRefusal Place :=
  if Path.maxPath < Path.octetCount p.text then .error .nameTooLong
  else s.follow (if p.root = .here then s.current else []) p.names

/-- What stands at the end of a path. -/
def find (s : Store) (p : Path) : Except FileRefusal Entry := do
  match s.holds? (← s.place p) with
  | some e => return e
  | none => throw .notFound

/-- Whether a path leads to a file. A path that cannot be asked for leads to none; one that is too long is a fault. -/
def isFile (s : Store) (p : Path) : Except FileFault Bool :=
  match p.fault?, s.find p with
  | some _, _ => .ok false
  | none, .ok (.file _) => .ok true
  | none, .error .nameTooLong => .error (.refused .nameTooLong p)
  | none, _ => .ok false

/-- Whether a path leads to a directory. -/
def isDirectory (s : Store) (p : Path) : Bool :=
  match s.find p with
  | .ok .directory => true
  | _ => false

/-- The content of the file at the end of a path. -/
def content (s : Store) (p : Path) : Except FileFault (List UInt8) :=
  match p.fault?, s.find p with
  | some fault, _ => .error fault
  | none, .ok (.file octets) => .ok octets
  | none, .ok .directory => .error (.refused .isDirectory p)
  | none, .error refusal => .error (.refused refusal p)

/-- A store in which the file at the end of a path has a content. -/
def written (s : Store) (p : Path) (octets : List UInt8) : Except FileFault Store :=
  match p.fault?, s.place p with
  | some fault, _ => .error fault
  | none, .error refusal => .error (.refused refusal p)
  | none, .ok place =>
    match s.holds? place with
    | some .directory => .error (.refused .isDirectory p)
    | _ => .ok (s.put place (.file octets))

/-- Gives the file at the end of a path a text as its content. The file is left empty if the text has no octets. -/
def write (p : Path) (text : String) (s : Store) : Except FileFault Unit × Store :=
  let (octets, result) : List UInt8 × Except FileFault Unit := match Utf8.encode text with
    | .ok octets => (octets, .ok ())
    | .error u => ([], .error (.unwritable u))
  match s.written p octets with
  | .ok t => (result, t)
  | .error fault => (.error fault, s)

/-- A store with a new directory at the end of a path. -/
def withDirectory (s : Store) (p : Path) : Except FileRefusal Store := do
  let place ← s.place p
  match s.holds? place with
  | some _ => throw .exists
  | none => return s.put place .directory

/-- Makes a directory, but is content with one that is there. -/
def makeOne (s : Store) (p : Path) : Except FileFault Unit × Store :=
  match s.withDirectory p with
  | .ok t => (.ok (), t)
  | .error refusal =>
    (if refusal ≠ .notFound ∧ s.isDirectory p then .ok () else .error (.refused refusal p), s)

/-- Makes a directory of so many names, and those above it first if there is none to hold it. -/
def makeWithParents : Nat → Path → Store → Except FileFault Unit × Store
  | 0, p, s => s.makeOne p
  | count + 1, p, s =>
    match s.withDirectory p with
    | .error .notFound =>
      match makeWithParents count p.parent s with
      | (.ok (), t) => t.makeOne p
      | r => r
    | _ => s.makeOne p

/-- Makes a directory and those above it. -/
def makeDirectory (p : Path) (s : Store) : Except FileFault Unit × Store :=
  match p.fault? with
  | some fault => (.error fault, s)
  | none => makeWithParents p.names.length p s

instance : FileAccess (StateM Store) where
  isFile p := return (← get).isFile p
  read p := return (← get).content p
  makeDirectory p := modifyGet (Store.makeDirectory p)
  write p text := modifyGet (Store.write p text)

@[simp] theorem lookup_putEntry_self (place : Place) (e : Entry) (es : List (Place × Entry)) :
    (putEntry place e es).lookup place = some e := by
  induction es with
  | nil => simp [putEntry]
  | cons f es ih =>
    obtain ⟨q, f⟩ := f
    rw [putEntry]
    split
    · next h => simp [h]
    · next h => simp [List.lookup_cons, ih, beq_eq_false_iff_ne.2 (Ne.symm h)]

theorem lookup_putEntry_of_ne {place other : Place} (h : other ≠ place) (e : Entry) (es : List (Place × Entry)) :
    (putEntry place e es).lookup other = es.lookup other := by
  induction es with
  | nil => simp [putEntry, List.lookup_cons, beq_eq_false_iff_ne.2 h]
  | cons f es ih =>
    obtain ⟨q, f⟩ := f
    rw [putEntry]
    split
    · next hq => simp [List.lookup_cons, hq, beq_eq_false_iff_ne.2 h]
    · simp [List.lookup_cons, ih]

/-- What has been put at a place stands there. -/
theorem holds?_put_self {place : Place} (h : place ≠ []) (s : Store) (e : Entry) :
    (s.put place e).holds? place = some e := by
  simp [holds?, put, h]

/-- What is put at one place changes nothing at another. -/
theorem holds?_put_of_ne {place other : Place} (h : other ≠ place) (s : Store) (e : Entry) :
    (s.put place e).holds? other = s.holds? other := by
  simp [holds?, put, lookup_putEntry_of_ne h]

end Store
end Deflatten
