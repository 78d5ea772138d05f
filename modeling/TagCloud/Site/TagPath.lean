import TagCloud.Site.Answer
import TagCloud.Text.Lower

/-!
# Paths to tag files

A request may name a tag file of the project by its path. The path is made absolute and its dots are
worked off before anything is looked at, so that whether it is inside the project is seen from the
names alone. Inside the project means below its directory: the directory itself does not count.
-/

namespace TagCloud.Site

/-- A location with the names of a path worked off one by one; two dots take a name away. -/
def follow (l : File.Location) (names : List String) : File.Location :=
  names.foldl (fun l name => if name = ".." then l.dropLast else l ++ [name]) l

/-- The location that a path leads to from a directory when nothing on the way is looked at. -/
def destination (base : File.Location) (p : File.Path) : File.Location :=
  follow (if p.root = .here then base else []) p.names

/-- The path of a location. -/
def absolute (l : File.Location) : File.Path :=
  ⟨.top, l⟩

/-- A location below another one. -/
def isBelow (base l : File.Location) : Bool :=
  base.isPrefixOf l && base.length < l.length

/-- The last dot of a name and what follows it, unless that dot begins or ends the name. -/
def suffixOf (name : String) : String :=
  let reversed := name.toList.reverse
  let last := reversed.takeWhile (· ≠ '.')
  if !last.isEmpty && last.length + 1 < reversed.length then
    String.ofList ('.' :: last.reverse)
  else ""

/-- A location whose name is that of a tag file. -/
def namesTagFile (l : File.Location) : Bool :=
  match l.getLast? with
  | some name => Text.lower (suffixOf name) = ".json"
  | none => false

/-- The location of the tag file that a path names. -/
def locateTagFile (tree : File.Tree) (base : File.Location) (path : String) :
    Except Trouble File.Location :=
  let l := destination base (.ofText path)
  if path.toList.contains '\x00' then .error (.refused (.path .nullByte))
  else if !isBelow base l then .error (.refused (.path .outside))
  else if !namesTagFile l then .error (.refused (.path (.suffix path)))
  else
    match tree.hasEntry (absolute l) with
    | .error e => .error (.failed (.file e))
    | .ok true => .ok l
    | .ok false => .error (.refused (.path (.missing path)))

/-- How many levels of arrays and objects the site has room for. -/
def levels : Nat := 965

/-- What becomes of a request that needs a file that cannot be read. -/
def unread : TagFileError → Trouble
  | .json (.tooDeep e) => .failed (.depth e)
  | e => .refused (.content (.file e))

/-- The members of the tag file at a location. -/
def readTagFileAt (tree : File.Tree) (l : File.Location) :
    Except Trouble (List (String × Json.Value)) := do
  let bytes ← (tree.read (absolute l)).mapError fun e => .failed (.file e)
  (readTagFile levels (absolute l).text bytes).mapError unread

/-- The members of the tag file that a path names. -/
def loadTagFile (tree : File.Tree) (base : File.Location) (path : String) :
    Except Trouble (List (String × Json.Value)) := do
  readTagFileAt tree (← locateTagFile tree base path)

end TagCloud.Site
