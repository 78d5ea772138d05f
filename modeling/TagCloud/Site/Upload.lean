import TagCloud.Site.Form
import TagCloud.Site.TagPath
import TagCloud.Text.Blank
import TagCloud.Text.Fold

/-!
# Taking files in

An uploaded file is stored under the second in which it came and the safe form of its name, in the
directory for uploads. It is stored first and read then, as any tag file is read, and taken away
again if it is none. Two uploads in one second with the same safe name are stored in the same place.
-/

namespace TagCloud.Site

open TagCloud.Text

/-!
## Names of uploaded files

The name of an uploaded file is the client's and is not trusted: before a file is stored under it,
it is reduced to letters, digits, dots, hyphens and low lines, with no dot or low line at either
end, so that it can neither lead anywhere nor hide.
-/

/-- The words of a text, cut at its blanks. -/
def words : List Char → List (List Char)
  | [] => []
  | c :: cs =>
    if isBlank c then words cs
    else
      match cs with
      | [] => [[c]]
      | next :: _ =>
        if isBlank next then [c] :: words cs
        else
          match words cs with
          | [] => [[c]]
          | word :: more => (c :: word) :: more

/-- A character that a stored name may hold. -/
def isSafe (c : Char) : Bool :=
  c.isAlphanum || c == '_' || c == '.' || c == '-'

/-- A character that a stored name may neither begin nor end with. -/
def isFringe (c : Char) : Bool :=
  c == '.' || c == '_'

/-- Drops dots and low lines at both ends. -/
def dropFringe (cs : List Char) : List Char :=
  ((cs.dropWhile isFringe).reverse.dropWhile isFringe).reverse

/-- A name that a file can be stored under. It may be empty. -/
def safeName (name : String) : String :=
  let plain := (fold name.toList).map fun c => if c = '/' then ' ' else c
  let joined := List.intercalate ['_'] (words plain)
  String.ofList (dropFringe (joined.filter isSafe))

/-! ## Uploads -/

/-- The names that lead from the project to the directory for uploads. -/
def uploadNames : List String := ["data", "uploads"]

/-- The name by which a file counts that came at a given second. -/
def keptName (now : Int) (name : String) : String :=
  let safe := safeName name
  if safe.isEmpty then "upload-" ++ toString now ++ ".json" else safe

/-- The names that lead from the project to a stored file. -/
def storedNames (now : Int) (name : String) : List String :=
  uploadNames ++ [toString now ++ "-" ++ keptName now name]

/-- The number of tags in the file at a location. -/
def countTags (tree : File.Tree) (l : File.Location) : Except Trouble Nat := do
  let members ← readTagFileAt tree l
  let tallies ← ((Json.Value.toTags members).tallies).mapError fun e => .refused (.content (.tag e))
  return tallies.length

/-- Stores bytes at a location and looks at them: the number of tags, or what is wrong, and the tree
that is left behind. -/
def takeIn (tree : File.Tree) (l : File.Location) (bytes : List UInt8) :
    Except Trouble Nat × File.Tree :=
  match tree.ensureDirectories (absolute l).parent with
  | (some e, tree) => (.error (.failed (.file e)), tree)
  | (none, tree) =>
    match tree.write (absolute l) bytes with
    | .error e => (.error (.failed (.file e)), tree)
    | .ok tree =>
      match countTags tree l with
      | .ok n => (.ok n, tree)
      | .error (.refused (.content e)) => (.error (.refused (.upload e)), tree.erase l)
      | .error t => (.error t, tree)

/-- Takes a file in that has a name. -/
def takeNamed (tree : File.Tree) (base : File.Location) (now : Int) (name : String)
    (bytes : List UInt8) : Answer × File.Tree :=
  let names := storedNames now name
  match takeIn tree (base ++ names) bytes with
  | (.error t, tree) => (.trouble t, tree)
  | (.ok n, tree) =>
    (.receipt
      { path := (File.Path.mk .here names).text
        name := keptName now name
        stored := (absolute (base ++ names)).text
        tagCount := n }, tree)

/-- The answer to a form at a given second, and the tree that is left behind. Of several files for
the field the first one counts. -/
def upload (tree : File.Tree) (base : File.Location) (now : Int) (parts : List FilePart) :
    Answer × File.Tree :=
  match parts.find? fun part => part.field = "file" && part.name.isSome with
  | none => (.trouble (.refused .noFilePart), tree)
  | some part =>
    match part.name.getD "" with
    | "" => (.trouble (.refused .noFileChosen), tree)
    | name => takeNamed tree base now name part.bytes

end TagCloud.Site
