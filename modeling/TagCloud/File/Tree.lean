import TagCloud.Dictionary
import TagCloud.File.Path
import TagCloud.Text.Quoted

/-!
# A tree of files

Everything that reads or writes files works on a tree of files, which holds the files of a machine
by their location: the names that lead to them from the root. A path is followed name by name, and
each name on the way has to belong to a directory, so two dots behind something that does not exist
lead nowhere.

What may fail gives back the tree that is left behind, where that can differ from the tree before:
directories that were made on the way to a failure stay.
-/

namespace TagCloud.File

/-- The names that lead to a file from the root. -/
abbrev Location := List String

/-- What is at a location. -/
inductive Entry where
  | file (bytes : List UInt8)
  | directory
  deriving Repr, DecidableEq

/-- Files and directories by their locations, and the working directory. The root is a directory
and has no entry. -/
structure Tree where
  entries : Dictionary Location Entry
  here : Location
  deriving Repr, DecidableEq

/-- Why nothing can be done with a path. -/
inductive Fault where
  | missing
  | present
  | notDirectory
  | isDirectory
  | nameTooLong
  | nullByte
  deriving Repr, DecidableEq

/-- The number of a fault, and the words for it. -/
def Fault.description : Fault → Nat × String
  | .missing => (2, "No such file or directory")
  | .present => (17, "File exists")
  | .notDirectory => (20, "Not a directory")
  | .isDirectory => (21, "Is a directory")
  | .nameTooLong => (36, "File name too long")
  | .nullByte => (22, "embedded null byte")

/-- A fault and the path at which it was met. -/
structure FileError where
  fault : Fault
  path : Path
  deriving Repr, DecidableEq

/-- The text shown for a fault. A path that cannot be handed on at all is not shown. -/
def FileError.message (e : FileError) : String :=
  let (number, words) := e.fault.description
  if e.fault = .nullByte then words
  else "[Errno " ++ toString number ++ "] " ++ words ++ ": " ++ Text.quoted e.path.text

/-- The longest name, in bytes. -/
def nameLimit : Nat := 255

/-- The longest path, in bytes. -/
def pathLimit : Nat := 4095

namespace Tree

/-- What is at a location. -/
def at? (t : Tree) (l : Location) : Option Entry :=
  if l = [] then some .directory else t.entries.get? l

/-- The location of a name in a directory. -/
def step (t : Tree) (l : Location) (name : String) : Except Fault Location :=
  match t.at? l with
  | none => .error .missing
  | some (.file _) => .error .notDirectory
  | some .directory =>
    if name = ".." then .ok l.dropLast
    else if nameLimit < name.utf8ByteSize then .error .nameTooLong
    else .ok (l ++ [name])

/-- The location that a path leads to. Something is there or could be put there. -/
def locate (t : Tree) (p : Path) : Except Fault Location :=
  if p.text.toList.contains '\x00' then .error .nullByte
  else if pathLimit < p.text.utf8ByteSize then .error .nameTooLong
  else p.names.foldlM t.step (if p.root = .here then t.here else [])

/-- Whether a path leads to something. -/
def hasEntry (t : Tree) (p : Path) : Except FileError Bool :=
  match t.locate p with
  | .ok l => .ok (t.at? l).isSome
  | .error .nameTooLong => .error ⟨.nameTooLong, p⟩
  | .error _ => .ok false

/-- A path leads to a directory. -/
def isDirectory (t : Tree) (p : Path) : Bool :=
  match t.locate p with
  | .ok l => t.at? l = some .directory
  | .error _ => false

/-- The bytes of the file that a path leads to. -/
def read (t : Tree) (p : Path) : Except FileError (List UInt8) :=
  match t.locate p with
  | .error fault => .error ⟨fault, p⟩
  | .ok l =>
    match t.at? l with
    | none => .error ⟨.missing, p⟩
    | some .directory => .error ⟨.isDirectory, p⟩
    | some (.file bytes) => .ok bytes

/-- The tree with something else at a location. -/
def put (t : Tree) (l : Location) (entry : Entry) : Tree :=
  { t with entries := Dictionary.put l entry t.entries }

/-- The tree with bytes in the file that a path leads to. -/
def write (t : Tree) (p : Path) (bytes : List UInt8) : Except FileError Tree :=
  match t.locate p with
  | .error fault => .error ⟨fault, p⟩
  | .ok l =>
    match t.at? l with
    | some .directory => .error ⟨.isDirectory, p⟩
    | _ => .ok (t.put l (.file bytes))

/-- The tree without what is at a location. -/
def erase (t : Tree) (l : Location) : Tree :=
  { t with entries := t.entries.filter fun entry => entry.1 ≠ l }

/-- The tree with a new directory. -/
def makeDirectory (t : Tree) (p : Path) : Except FileError Tree :=
  match t.locate p with
  | .error fault => .error ⟨fault, p⟩
  | .ok l => if (t.at? l).isSome then .error ⟨.present, p⟩ else .ok (t.put l .directory)

/-- Makes a directory where there is none. What to do when the way to it is missing is said by
`missing`; any other failure is none if the directory is there. -/
def ensureDirectory (t : Tree) (p : Path) (missing : FileError → Option FileError × Tree) :
    Option FileError × Tree :=
  match t.makeDirectory p with
  | .ok t => (none, t)
  | .error e =>
    match e.fault with
    | .missing => missing e
    | .nullByte => (some e, t)
    | _ => if t.isDirectory p then (none, t) else (some e, t)

/-- Makes the directory of some names, the last name first, and all directories on the way to it:
what failed, and the tree that is left behind. -/
def ensureNames (root : Root) : List String → Tree → Option FileError × Tree
  | [], t => t.ensureDirectory ⟨root, []⟩ fun e => (some e, t)
  | name :: before, t =>
    let p : Path := ⟨root, (name :: before).reverse⟩
    t.ensureDirectory p fun _ =>
      match ensureNames root before t with
      | (some e, t) => (some e, t)
      | (none, t) => t.ensureDirectory p fun e => (some e, t)

/-- Makes a directory and all directories on the way to it: what failed, and the tree that is left
behind. -/
def ensureDirectories (t : Tree) (p : Path) : Option FileError × Tree :=
  ensureNames p.root p.names.reverse t

end Tree

end TagCloud.File
