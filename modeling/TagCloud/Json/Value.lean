import TagCloud.Dictionary
import TagCloud.Number.Shortest
import TagCloud.Seed
import TagCloud.Tags

/-!
# JSON values

Tag files, requests and the variables of a template are JSON values. Besides what their members say,
three things are asked of a value: whether it counts as given at all, what text stands for it where
a text is needed, and what it is as the value of a tag or as a seed.
-/

namespace TagCloud.Json

/-- A JSON value. Whole numbers are exact and of any size. -/
inductive Value where
  | null
  | bool (b : Bool)
  | whole (n : Int)
  | real (x : Float)
  | string (s : String)
  | array (items : List Value)
  | object (members : List (String × Value))
  deriving Repr

namespace Value

/-- The kind of a value. -/
def kind : Value → Kind
  | null => .null
  | bool _ => .truth
  | whole _ => .whole
  | real _ => .real
  | string _ => .text
  | array _ => .list
  | object _ => .dictionary

/-- A value that counts as nothing: null, false, zero, or anything empty. -/
def isEmpty : Value → Bool
  | null => true
  | bool b => !b
  | whole n => n == 0
  | real x => x == 0
  | string s => s.isEmpty
  | array items => items.isEmpty
  | object members => members.isEmpty

/-- Texts with a comma and a blank between them. -/
def commaJoined (texts : List String) : String :=
  String.intercalate ", " texts

mutual

/-- A value as it is shown inside another one. -/
def shown : Value → String
  | null => "None"
  | bool b => truthText b
  | whole n => toString n
  | real x => Number.shortest x
  | string s => Text.quoted s
  | array items => "[" ++ commaJoined (shownItems items) ++ "]"
  | object members => "\x7b" ++ commaJoined (shownMembers members) ++ "\x7d"

/-- The items of an array as they are shown. -/
def shownItems : List Value → List String
  | [] => []
  | v :: vs => shown v :: shownItems vs

/-- The members of an object as they are shown. -/
def shownMembers : List (String × Value) → List String
  | [] => []
  | (key, v) :: rest => (Text.quoted key ++ ": " ++ shown v) :: shownMembers rest

end

/-- The text that stands for a value: a string is its own text. -/
def text : Value → String
  | string s => s
  | v => v.shown

/-- A value as the value of a tag. -/
def toTagValue : Value → TagValue
  | whole n => .count n
  | array items => .items items.length
  | object members => .items members.length
  | bool b => .truth b
  | v => .other v.kind

/-- The members of an object as tags. -/
def toTags (members : List (String × Value)) : Tags :=
  members.map fun (key, v) => (.text key, v.toTagValue)

/-- A value as a seed. -/
def toSeed : Value → Seed
  | null => .none
  | bool b => .truth b
  | whole n => .whole n
  | real x => .real (.ofFloat x)
  | string s => .text s
  | v => .other v.kind

end Value

end TagCloud.Json
