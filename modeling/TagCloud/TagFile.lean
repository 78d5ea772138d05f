import TagCloud.Json.Parser
import TagCloud.Text.Blank
import TagCloud.Text.Utf8

/-!
# Tag files

A tag file is a JSON object in UTF-8 whose members are tags. Line ends of every kind count as one
character, in positions as in names.
-/

namespace TagCloud

/-- Why a file is no tag file. -/
inductive TagFileError where
  | encoding (e : Text.Utf8Error)
  | json (e : Json.ParseError)
  | notAnObject (path : String)
  deriving Repr, DecidableEq

/-- The text shown for a file that is no tag file. -/
def TagFileError.message : TagFileError → String
  | .encoding e => e.message
  | .json e => e.message
  | .notAnObject path => "Expected a JSON object of tags in " ++ path

/-- The members of the object that a file holds, read with room for so many levels. The path is only
shown. -/
def readTagFile (room : Nat) (path : String) (bytes : List UInt8) :
    Except TagFileError (List (String × Json.Value)) := do
  let text ← (Text.decodeUtf8 bytes).mapError .encoding
  let value ← (Json.parseWithin room (Text.unifyNewlines text)).mapError .json
  match value with
  | .object members => return members
  | _ => .error (.notAnObject path)

end TagCloud
