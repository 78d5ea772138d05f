import TagCloud.Dictionary
import TagCloud.Label
import TagCloud.Text.Quoted

/-!
# Tags and their values

A tag comes with the items it was given to, or with their number. Of items only the number counts,
which has to be one that fits a machine word. A value that is neither is refused, and so is a truth
value, which must not be taken for a number.
-/

namespace TagCloud

/-- The kind of a value, where only its kind is told. -/
inductive Kind where
  | text
  | whole
  | real
  | truth
  | null
  | list
  | dictionary
  | bytes
  | tuple
  | set
  | frozenSet
  | range
  | markup
  | undefined
  | function
  | type
  | method
  | other (name : String)
  deriving Repr, DecidableEq

/-- The name of a kind in messages. -/
def Kind.name : Kind → String
  | .text => "str"
  | .whole => "int"
  | .real => "float"
  | .truth => "bool"
  | .null => "NoneType"
  | .list => "list"
  | .dictionary => "dict"
  | .bytes => "bytes"
  | .tuple => "tuple"
  | .set => "set"
  | .frozenSet => "frozenset"
  | .range => "range"
  | .markup => "Markup"
  | .undefined => "Undefined"
  | .function => "function"
  | .type => "type"
  | .method => "builtin_function_or_method"
  | .other name => name

/-- A truth value as messages show it. -/
def truthText (b : Bool) : String :=
  if b then "True" else "False"

/-- The name of a tag: a text, or a whole number or nothing in the place of one. -/
inductive TagName where
  | text (s : String)
  | whole (n : Int)
  | null
  deriving Repr, DecidableEq

/-- The name that a label gets. -/
def TagName.label : TagName → String
  | .text s => s
  | .whole n => toString n
  | .null => "None"

/-- A name as messages show it. -/
def TagName.shown : TagName → String
  | .text s => Text.quoted s
  | .whole n => toString n
  | .null => "None"

/-- The value of a tag: a count, a collection of which the size is kept, a truth value, or a value
of another kind. -/
inductive TagValue where
  | count (n : Int)
  | items (size : Nat)
  | truth (b : Bool)
  | other (kind : Kind)
  deriving Repr, DecidableEq

/-- Tags with their values. -/
abbrev Tags := Dictionary TagName TagValue

/-- A tag has a value that cannot be counted. -/
inductive UnsupportedTag where
  | truth (name : TagName) (b : Bool)
  | other (name : TagName) (kind : Kind)
  | tooManyItems
  deriving Repr, DecidableEq

/-- The text shown for a value that cannot be counted. -/
def UnsupportedTag.message : UnsupportedTag → String
  | .truth name b => "Unsupported value for tag " ++ name.shown ++ ": " ++ truthText b
  | .other name kind => "Unsupported value for tag " ++ name.shown ++ ": " ++ kind.name
  | .tooManyItems => "Python int too large to convert to C ssize_t"

/-- The most items that can be counted. -/
def itemsLimit : Nat := 9223372036854775807

/-- The tally of a tag. -/
def tally (name : TagName) : TagValue → Except UnsupportedTag Tally
  | .count n => .ok ⟨name.label, n⟩
  | .items size =>
    if itemsLimit < size then .error .tooManyItems else .ok ⟨name.label, Int.ofNat size⟩
  | .truth b => .error (.truth name b)
  | .other kind => .error (.other name kind)

/-- The tallies of some tags, in their order. -/
def Tags.tallies (tags : Tags) : Except UnsupportedTag (List Tally) :=
  tags.mapM fun (name, value) => tally name value

end TagCloud
