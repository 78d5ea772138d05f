/-!
# Paths

A path is taken apart when it is met and written out again whenever it is shown, so repeated and
trailing slashes and single dots are gone by then; two dots stay, because what they lead to depends
on the files. A path begins at the root or at the working directory. Exactly two slashes at its
front are a root of their own, which leads to the same place but is written differently.
-/

namespace TagCloud.File

/-- Where a path begins. -/
inductive Root where
  | here
  | top
  | doubled
  deriving Repr, DecidableEq

/-- A path: where it begins, and the names that lead on from there. -/
structure Path where
  root : Root
  names : List String
  deriving Repr, DecidableEq

/-- Cuts a text at its slashes. -/
def cutAtSlashes : List Char → List (List Char)
  | [] => [[]]
  | c :: cs =>
    if c = '/' then [] :: cutAtSlashes cs
    else
      match cutAtSlashes cs with
      | [] => [[c]]
      | name :: names => (c :: name) :: names

/-- The names of a path in a text. -/
def namesOf (cs : List Char) : List String :=
  ((cutAtSlashes cs).filter fun name => !name.isEmpty && name != ['.']).map String.ofList

/-- Where a path in a text begins. -/
def rootOf (cs : List Char) : Root :=
  match (cs.takeWhile (· = '/')).length with
  | 0 => .here
  | 2 => .doubled
  | _ => .top

namespace Path

/-- The path that a text denotes. -/
def ofText (s : String) : Path where
  root := rootOf s.toList
  names := namesOf s.toList

/-- How a root is written. -/
def rootText : Root → String
  | .here => ""
  | .top => "/"
  | .doubled => "//"

/-- A path as it is shown. -/
def text (p : Path) : String :=
  if p.root = .here && p.names.isEmpty then "."
  else rootText p.root ++ String.intercalate "/" p.names

/-- The path without its last name. -/
def parent (p : Path) : Path :=
  { p with names := p.names.dropLast }

end Path

end TagCloud.File
