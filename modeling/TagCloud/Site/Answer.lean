import TagCloud.Failure
import TagCloud.TagFile

/-!
# Answers of the site

A request is answered with a page, with a cloud, with a receipt for a file, or with a refusal that
says what is wrong with the request. A failure is answered too, but without a word.
-/

namespace TagCloud.Site

/-- Why a path gives no tag file. -/
inductive PathError where
  | nullByte
  | outside
  | suffix (path : String)
  | missing (path : String)
  deriving Repr, DecidableEq

/-- The text shown for a path that gives no tag file. -/
def PathError.message : PathError → String
  | .nullByte => "embedded null byte"
  | .outside => "Tag file must stay within the project directory"
  | .suffix path => "Tag file must be a .json file: " ++ path
  | .missing path => "Input file not found: " ++ path

/-- Why the contents of a file are refused. -/
inductive ContentError where
  | file (e : TagFileError)
  | tag (e : UnsupportedTag)
  deriving Repr, DecidableEq

/-- The text shown for contents that are refused. -/
def ContentError.message : ContentError → String
  | .file e => e.message
  | .tag e => e.message

/-- What is wrong with a request. -/
inductive Refusal where
  | noObject
  | noTags
  | noMapping
  | path (e : PathError)
  | content (e : ContentError)
  | seed (e : SeedError)
  | noFilePart
  | noFileChosen
  | upload (e : ContentError)
  deriving Repr, DecidableEq

namespace Refusal

/-- The text that a request is refused with. -/
def message : Refusal → String
  | .noObject => "Expected a JSON object"
  | .noTags => "tags or jsonPath missing"
  | .noMapping => "tags must be an object mapping tag names to items or counts"
  | .path e => e.message
  | .content e => e.message
  | .seed e => e.message
  | .noFilePart => "No file part"
  | .noFileChosen => "No selected file"
  | .upload e => "Invalid tag file: " ++ e.message

/-- The status that a request is refused with. -/
def status : Refusal → Nat
  | .path (.missing _) => 404
  | _ => 400

end Refusal

/-- Why a request does not get what it asks for. -/
inductive Trouble where
  | refused (r : Refusal)
  | failed (f : Failure)
  deriving Repr, DecidableEq

/-- A cloud as the site hands it out: its markup, what it was made by, and its labels. -/
structure Rendering where
  html : String
  config : Config Float
  labels : List (Label Float)

/-- What is told of a file that was taken in: the path by which requests may name it, the name it
was given, its path from the root, and how many tags it holds. -/
structure Receipt where
  path : String
  name : String
  stored : String
  tagCount : Nat
  deriving Repr, DecidableEq

/-- An answer. -/
inductive Answer where
  | page (html : String)
  | cloud (r : Rendering)
  | receipt (r : Receipt)
  | trouble (t : Trouble)

/-- The status of an answer. -/
def Answer.status : Answer → Nat
  | .page _ | .cloud _ | .receipt _ => 200
  | .trouble (.refused r) => r.status
  | .trouble (.failed _) => 500

end TagCloud.Site
