import TagCloud.Json.Value
import TagCloud.Quantity
import TagCloud.Template.Fault
import TagCloud.Template.Operation
import TagCloud.Template.Room

/-!
# The values of a template

The variables of a template are JSON values and tags, and its expressions make more of them: tuples,
ranges, markup, functions, and the value of what is not there. All of them can be shown, since
whatever is handed to a cloud as its directive is turned into text first.

A value shown inside another one has its quotes; on its own a text is shown as it is. What is not
there is shown as nothing, and keeps what is to be said when something is done with it.

Whether two values are one and the same shows as well. What can be changed is known by a handle, so
that it is known again when one of its methods has changed it or something has been taken from it.
What an expression makes has none as long as nothing else refers to it. A text or a number, which
nothing can change, is known by where it comes from.

An iterator gives its items one by one, and it may end in a fault: what takes the items before it
never meets it. Its name is that of its kind, or that of the function that generates the items.
-/

namespace TagCloud.Template

/-- The functions that every template can call by name, and the types of values. -/
inductive Builtin where
  | cloud
  | range
  | dictionary
  | filler
  | cycler
  | joiner
  | space
  | kind (k : Kind)
  deriving Repr, DecidableEq

/-- What a value that can be changed is known by if several things may refer to it. -/
abbrev Handle := Option Nat

/-- Where a text or a number comes from: from something that makes it anew, from the template or
from a notation of which equal ones are the same, or from some part of a variable. -/
inductive Origin where
  | anew
  | constant
  | common
  | part (n : Nat)
  deriving Repr, DecidableEq

/-- A value. -/
inductive Value where
  | null
  | bool (b : Bool)
  | whole (n : Int) (origin : Origin := .anew)
  | real (x : Float) (origin : Origin := .anew)
  | complex (x y : Float)
  | text (s : String) (origin : Origin := .anew)
  | markup (s : String)
  | bytes (bs : List UInt8)
  | list (handle : Handle) (items : List Value)
  | tuple (items : List Value)
  | group (key : Value) (items : List Value)
  | set (handle : Handle) (frozen : Bool) (items : List Value)
  | dictionary (handle : Handle) (members : List (Value × Value))
  | range (start stop step : Int)
  | view (name : String) (handle : Handle) (members : List (Value × Value))
  | reflection (handle : Handle) (members : List (Value × Value))
  | iterator (handle : Handle) (name : String) (items : List Value) (ending : Option Fault)
  | undefined (complaint : String)
  | builtin (f : Builtin)
  | method (receiver : Value) (name : String)
  | cycler (handle : Handle) (items : List Value) (place : Nat)
  | joiner (handle : Handle) (separator : Value) (used : Bool)
  | space (handle : Handle) (members : List (Value × Value))
  | blocks
  | declined
  | bounds (start stop step : Value)
  | applied (starred : Bool) (origin : Builtin) (arguments : List Value)
  deriving Repr

namespace Builtin

/-- The name of a function, or of a type. -/
def name : Builtin → String
  | cloud => "tag_cloud"
  | range => "range"
  | dictionary => "dict"
  | filler => "generate_lorem_ipsum"
  | cycler => "Cycler"
  | joiner => "Joiner"
  | space => "Namespace"
  | kind k => k.name

/-- Where a function or a type is defined, with a point behind it; nothing for what the language
has itself. -/
def home : Builtin → String
  | cycler | joiner | space | filler => "jinja2.utils."
  | kind .markup => "markupsafe."
  | kind .undefined => "jinja2.runtime."
  | kind (.other "_GroupTuple") => "jinja2.filters."
  | kind (.other "TemplateReference") => "jinja2.runtime."
  | _ => ""

/-- The function of a name. -/
def ofName? : String → Option Builtin
  | "tag_cloud" => some cloud
  | "range" => some range
  | "dict" => some dictionary
  | "lipsum" => some filler
  | "cycler" => some cycler
  | "joiner" => some joiner
  | "namespace" => some space
  | _ => none

/-- The type of the values of a kind. -/
def ofKind : Kind → Builtin
  | .range => range
  | .dictionary => dictionary
  | .other "Cycler" => cycler
  | .other "Joiner" => joiner
  | .other "Namespace" => space
  | k => kind k

/-- A function that makes values of a type of its own. -/
def isType : Builtin → Bool
  | cloud | filler => false
  | _ => true

/-- A type that can be given arguments in brackets. -/
def isGeneric : Builtin → Bool
  | dictionary => true
  | kind k => [.list, .tuple, .set, .frozenSet, .type].contains k
  | _ => false

end Builtin

namespace Value

/-- The methods that markup has for itself. The others are those of texts. -/
def markupOwn : List String :=
  [ "capitalize", "casefold", "center", "escape", "expandtabs", "format", "format_map", "join",
    "ljust", "lower", "lstrip", "partition", "removeprefix", "removesuffix", "replace", "rjust",
    "rpartition", "rsplit", "rstrip", "split", "splitlines", "strip", "striptags", "swapcase",
    "title", "translate", "unescape", "upper", "zfill" ]

/-- The methods that make a value of their class without having one. -/
def makers : List String :=
  ["from_bytes", "fromhex", "fromkeys", "maketrans"]


/-- The kind that all values are of. -/
def anyKind : Kind := .other "object"

/-- The kind of the values of a type. -/
def kindOfType : Builtin → Kind
  | .kind k => k
  | .range => .range
  | .dictionary => .dictionary
  | f => .other f.name

/-- The kind of the values of a type, if a value is a type of which values have methods. -/
def instances? : Value → Option Kind
  | builtin .range => some .range
  | builtin .cycler => some (.other Builtin.cycler.name)
  | builtin .dictionary | applied _ .dictionary _ => some .dictionary
  | builtin (.kind k) | applied _ (.kind k) _ => some k
  | _ => none

/-- The kind of a method behind an operation, whose receiver may be a type. -/
def operationKind (receiver : Value) (k : Kind) (operation : String) : Kind :=
  let k := Operation.definer k operation
  let isType := receiver.instances?.isSome && k ≠ .type && !Operation.ofTypes.contains operation
  if Operation.isFunction k operation then if isType then .function else .other "method"
  else if Operation.isPlain k operation then
    if isType then .other "method_descriptor" else .method
  else .other (if isType then "wrapper_descriptor" else "method-wrapper")

/-- The parts that the values of a kind have, and what holds them. -/
def partsOf : Kind → String × List String
  | .whole => ("getset_descriptor", ["denominator", "imag", "numerator", "real"])
  | .real => ("getset_descriptor", ["imag", "real"])
  | .other "complex" => ("member_descriptor", ["imag", "real"])
  | .range | .other "slice" => ("member_descriptor", ["start", "step", "stop"])
  | .other "dict_keys" | .other "dict_values" | .other "dict_items" =>
    ("getset_descriptor", ["mapping"])
  | _ => ("", [])

/-- What holds a part of the values of a kind, and the kind that it belongs to. -/
def holder? (k : Kind) (name : String) : Option (Kind × String) :=
  let k := if k = .truth then .whole else k
  let (holder, names) := partsOf k
  if names.contains name then some (k, holder) else none

/-- The kind of a method by whose it is, where the receiver is of some kind. -/
def methodKind (receiver : Value) (own : Kind) (name : String) : Kind :=
  match Operation.ofName? name, receiver.instances?.bind (holder? · name) with
  | _, some (_, holder) => .other holder
  | some operation, none =>
    let k := receiver.instances?.getD own
    operationKind receiver (if (Operation.all k).contains operation then k else own) operation
  | none, none =>
    match receiver with
    | markup _ => if markupOwn.contains name then .other "method" else .method
    | cycler .. => .other "method"
    | builtin (.kind .markup) =>
      if name = "escape" then .other "method"
      else if markupOwn.contains name then .function
      else if makers.contains name then .method
      else .other "method_descriptor"
    | builtin .cycler => .function
    | builtin _ | applied .. => if makers.contains name then .method else .other "method_descriptor"
    | _ => .method

/-- The kind of a value. -/
def kind : Value → Kind
  | null => .null
  | bool _ => .truth
  | whole .. => .whole
  | real .. => .real
  | complex .. => .other "complex"
  | text .. => .text
  | markup _ => .markup
  | bytes _ => .bytes
  | list .. => .list
  | tuple _ => .tuple
  | group .. => .other "_GroupTuple"
  | set _ frozen _ => if frozen then .frozenSet else .set
  | dictionary .. => .dictionary
  | range .. => .range
  | view name .. => .other name
  | reflection .. => .other "mappingproxy"
  | iterator _ name .. => .other (if Operation.isIterator name then name else "generator")
  | undefined _ => .undefined
  | builtin f => if f.isType then .type else .function
  | method receiver name => methodKind receiver receiver.kind name
  | cycler .. => .other "Cycler"
  | joiner .. => .other "Joiner"
  | space .. => .other "Namespace"
  | blocks => .other "TemplateReference"
  | declined => .other "NotImplementedType"
  | bounds .. => .other "slice"
  | applied .. => .other "types.GenericAlias"

/-- A value can be called. What holds a part of values cannot. -/
def isCallable : Value → Bool
  | method receiver name => (receiver.instances?.bind (holder? · name)).isNone
  | builtin _ | joiner .. | applied .. | undefined _ => true
  | _ => false

/-- The number of steps that a range takes. -/
def rangeSize (start stop step : Int) : Nat :=
  if 0 < step then ((stop - start + step - 1) / step).toNat
  else if step < 0 then ((start - stop - step - 1) / -step).toNat
  else 0

/-- A value that counts as nothing. -/
def isEmpty : Value → Bool
  | null => true
  | bool b => !b
  | whole n _ => n == 0
  | real x _ => x == 0
  | complex x y => x == 0 && y == 0
  | text s _ | markup s => s.isEmpty
  | bytes bs => bs.isEmpty
  | list _ items | tuple items | set _ _ items => items.isEmpty
  | dictionary _ members | view _ _ members | reflection _ members => members.isEmpty
  | range start stop step => rangeSize start stop step == 0
  | undefined _ => true
  | group .. | iterator .. | builtin _ | method .. | cycler .. | joiner .. | space .. | blocks
  | declined | bounds .. | applied .. => false

/-- The pairs of the members of a dictionary. -/
def pairs (members : List (Value × Value)) : List Value :=
  members.map fun (k, v) => tuple [k, v]

/-- What a view shows of the members of a dictionary: the keys, the values, or both. -/
def viewed (name : String) (members : List (Value × Value)) : List Value :=
  if name = "dict_keys" then members.map (·.1)
  else if name = "dict_values" then members.map (·.2)
  else pairs members

/-- A byte as it is shown between two quotes. -/
def quotedByte (quote : Char) (b : UInt8) : List Char :=
  let c := Char.ofNat b.toNat
  if c = quote || c = '\\' then ['\\', c]
  else if c = '\n' then ['\\', 'n']
  else if c = '\r' then ['\\', 'r']
  else if c = '\t' then ['\\', 't']
  else if 32 ≤ b && b < 127 then [c]
  else '\\' :: 'x' :: Text.hexDigits 2 b.toNat

/-- Bytes as they are shown. -/
def shownBytes (bs : List UInt8) : String :=
  let quote := Text.quoteFor (bs.map fun b => Char.ofNat b.toNat)
  String.ofList ('b' :: quote :: bs.flatMap (quotedByte quote) ++ [quote])

/-- The items of a tuple between its brackets. A single one keeps its comma. -/
def shownTuple : List String → String
  | [item] => "(" ++ item ++ ",)"
  | items => "(" ++ Json.Value.commaJoined items ++ ")"

/-- The items of a set between its brackets. -/
def shownSet (frozen : Bool) (items : List String) : String :=
  let inside := "\x7b" ++ Json.Value.commaJoined items ++ "\x7d"
  match frozen, items with
  | false, [] => "set()"
  | false, _ => inside
  | true, [] => "frozenset()"
  | true, _ => "frozenset(" ++ inside ++ ")"

/-- A range as it is shown; a step of one is left out. -/
def shownRange (start stop step : Int) : String :=
  let step := if step = 1 then "" else ", " ++ toString step
  "range(" ++ toString start ++ ", " ++ toString stop ++ step ++ ")"

/-- A real number as it is shown as a part of another one, without a fraction of nothing. -/
def shownPart (x : Float) : String :=
  let s := Number.shortest x
  if s.endsWith ".0" then String.ofList (s.toList.dropLast.dropLast) else s

/-- A complex number as it is shown. -/
def shownComplex (x y : Float) : String :=
  if x.toBits == 0 then shownPart y ++ "j"
  else
    let back := shownPart y
    "(" ++ shownPart x ++ (if back.startsWith "-" then "" else "+") ++ back ++ "j)"

/-- The name of a function among the arguments of a type. -/
def fullName? : Value → Option String
  | builtin f => some (f.home ++ f.name)
  | _ => none

/-- A function as it is shown. -/
def shownBuiltin (f : Builtin) : String :=
  if f.isType then "<class '" ++ f.home ++ f.name ++ "'>"
  else "<function " ++ f.name ++ " at 0x7f0000000000>"

/-- The class behind a value. -/
def origin? : Value → Option Builtin
  | builtin f | applied _ f _ => some f
  | _ => none

/-- What holds a part of the values of a type as it is shown. -/
def shownHolder (sort : String) (type : Value) (name : String) : String :=
  let kind := (type.instances?.bind (holder? · name)).map (·.1.name)
  "<" ++ sort ++ " '" ++ name ++ "' of '" ++ kind.getD "" ++ "' objects>"

/-- The name that a method has itself. What is not there has many names for one method. -/
def shownName (receiver : Value) (name : String) : String :=
  match receiver, Operation.ofName? name with
  | undefined _, some operation =>
    if Operation.failing.contains operation then "_fail_with_undefined_error" else name
  | _, _ => name

/-- A method as it is shown, where `owner` shows the value that it belongs to. -/
def shownMethod (receiver : Value) (owner name : String) : String :=
  match methodKind receiver receiver.kind name with
  | .other "getset_descriptor" => shownHolder "attribute" receiver name
  | .other "member_descriptor" => shownHolder "member" receiver name
  | .other "method-wrapper" =>
    "<method-wrapper '" ++ name ++ "' of " ++ receiver.kind.name ++ " object at 0x7f0000000000>"
  | .other "wrapper_descriptor" =>
    let kind := receiver.instances?.getD receiver.kind
    let kind := ((Operation.ofName? name).map (Operation.definer kind)).getD kind |>.name
    "<slot wrapper '" ++ name ++ "' of '" ++ kind ++ "' objects>"
  | .other "method" =>
    let kind := (receiver.origin?.map Builtin.name).getD receiver.kind.name
    let owner := if name = "escape" then shownBuiltin (.kind .markup) else owner
    "<bound method " ++ kind ++ "." ++ shownName receiver name ++ " of " ++ owner ++ ">"
  | .other _ =>
    let kind := (receiver.origin?.map Builtin.name).getD receiver.kind.name
    let kind := (((Operation.ofName? name).bind fun operation =>
      receiver.instances?.map fun k => (Operation.definer k operation).name)).getD kind
    let kind := if kind = "Markup" then "str" else kind
    "<method '" ++ name ++ "' of '" ++ kind ++ "' objects>"
  | .function => "<function " ++ receiver.kind.name ++ "." ++ name ++ " at 0x7f0000000000>"
  | _ => "<built-in method " ++ name ++ " of " ++ receiver.kind.name ++ " object at 0x7f0000000000>"

mutual

/-- A value as it is shown inside another one. -/
def shown : Value → String
  | null => "None"
  | bool b => truthText b
  | whole n _ => toString n
  | real x _ => Number.shortest x
  | complex x y => shownComplex x y
  | text s _ => Text.quoted s
  | markup s => "Markup(" ++ Text.quoted s ++ ")"
  | bytes bs => shownBytes bs
  | list _ items => "[" ++ Json.Value.commaJoined (shownItems items) ++ "]"
  | tuple items => shownTuple (shownItems items)
  | group key items =>
    shownTuple [shown key, "[" ++ Json.Value.commaJoined (shownItems items) ++ "]"]
  | set _ frozen items => shownSet frozen (shownItems items)
  | dictionary _ members => "\x7b" ++ Json.Value.commaJoined (shownMembers members) ++ "\x7d"
  | range start stop step => shownRange start stop step
  | view name _ members =>
    name ++ "([" ++ Json.Value.commaJoined (shownView name members) ++ "])"
  | reflection _ members =>
    "mappingproxy(\x7b" ++ Json.Value.commaJoined (shownMembers members) ++ "\x7d)"
  | iterator _ name .. =>
    let sort := if Operation.isIterator name then name ++ " object" else "generator object " ++ name
    "<" ++ sort ++ " at 0x7f0000000000>"
  | undefined _ => "Undefined"
  | builtin f => shownBuiltin f
  | method receiver name => shownMethod receiver (shown receiver) name
  | cycler .. => "<jinja2.utils.Cycler object at 0x7f0000000000>"
  | joiner .. => "<jinja2.utils.Joiner object at 0x7f0000000000>"
  | space _ members =>
    "<Namespace \x7b" ++ Json.Value.commaJoined (shownMembers members) ++ "\x7d>"
  | blocks => "<TemplateReference None>"
  | declined => "NotImplemented"
  | bounds start stop step =>
    "slice(" ++ Json.Value.commaJoined [shown start, shown stop, shown step] ++ ")"
  | applied starred origin arguments =>
    let inside :=
      if arguments.isEmpty then "()" else Json.Value.commaJoined (shownArguments arguments)
    (if starred then "*" else "") ++ origin.name ++ "[" ++ inside ++ "]"

/-- The items of a collection as they are shown. -/
def shownItems : List Value → List String
  | [] => []
  | v :: vs => shown v :: shownItems vs

/-- The arguments of a type as they are shown. -/
def shownArguments : List Value → List String
  | [] => []
  | v :: vs => (v.fullName?.getD (shown v)) :: shownArguments vs

/-- The members of a dictionary as they are shown. -/
def shownMembers : List (Value × Value) → List String
  | [] => []
  | (key, v) :: rest => (shown key ++ ": " ++ shown v) :: shownMembers rest

/-- What a view shows of the members of a dictionary, as it is shown. -/
def shownView (name : String) : List (Value × Value) → List String
  | [] => []
  | (key, v) :: rest =>
    (if name = "dict_keys" then shown key else if name = "dict_values" then shown v
      else "(" ++ shown key ++ ", " ++ shown v ++ ")") :: shownView name rest

end

/-- The text that stands for a value. -/
def plainText : Value → String
  | text s _ | markup s => s
  | undefined _ => ""
  | reflection h members => (dictionary h members).shown
  | v => v.shown

/-- The greatest whole number that is shown has one digit less than this one. -/
def shownLimit : Nat := Nat.pow 10 Number.digitLimit

mutual

/-- A value in which a whole number is too long to be shown. -/
def isOverlong : Value → Bool
  | whole n _ => shownLimit ≤ n.natAbs
  | list _ items | tuple items | set _ _ items | applied _ _ items => anyOverlong items
  | group key items => isOverlong key || anyOverlong items
  | dictionary _ members | space _ members | reflection _ members => anyMemberOverlong members
  | view name _ members => anyViewedOverlong name members
  | range start stop step =>
    shownLimit ≤ start.natAbs || shownLimit ≤ stop.natAbs || shownLimit ≤ step.natAbs
  | _ => false

/-- A whole number in one of some values is too long to be shown. -/
def anyOverlong : List Value → Bool
  | [] => false
  | v :: vs => isOverlong v || anyOverlong vs

/-- A whole number in a dictionary is too long to be shown. -/
def anyMemberOverlong : List (Value × Value) → Bool
  | [] => false
  | (key, v) :: rest => isOverlong key || isOverlong v || anyMemberOverlong rest

/-- A whole number in what a view shows is too long to be shown. -/
def anyViewedOverlong (name : String) : List (Value × Value) → Bool
  | [] => false
  | (key, v) :: rest =>
    (name ≠ "dict_values" && isOverlong key) || (name ≠ "dict_keys" && isOverlong v)
      || anyViewedOverlong name rest

end

mutual

/-- A JSON value as the value of a variable. -/
def ofJson : Json.Value → Value
  | .null => null
  | .bool b => bool b
  | .whole n => whole n
  | .real x => real x (if x.isNaN || x.isInf then .common else .anew)
  | .string s => text s
  | .array items => list none (ofJsonItems items)
  | .object members => dictionary none (ofJsonMembers members)

/-- The items of a JSON array. -/
def ofJsonItems : List Json.Value → List Value
  | [] => []
  | v :: vs => ofJson v :: ofJsonItems vs

/-- The members of a JSON object. -/
def ofJsonMembers : List (String × Json.Value) → List (Value × Value)
  | [] => []
  | (key, v) :: rest => (text key .common, ofJson v) :: ofJsonMembers rest

end

/-- A value as the name of a tag. -/
def toTagName : Value → TagName
  | whole n _ => .whole n
  | null => .null
  | v => .text v.plainText

/-- A value as the value of a tag. -/
def toTagValue : Value → TagValue
  | whole n _ => .count n
  | bool b => .truth b
  | list _ items | tuple items | set _ _ items => .items items.length
  | group .. => .items 2
  | dictionary _ members | view _ _ members | reflection _ members => .items members.length
  | range start stop step => .items (rangeSize start stop step)
  | undefined _ => .items 0
  | v => .other v.kind

/-- The members of a dictionary as tags. -/
def toTags (members : List (Value × Value)) : Tags :=
  members.map fun (key, v) => (key.toTagName, v.toTagValue)

/-- A value as a seed. -/
def toSeed : Value → Seed
  | null => .none
  | bool b => .truth b
  | whole n _ => .whole n
  | real x _ => .real (.ofFloat x)
  | text s _ | markup s => .text s
  | v => .other v.kind

/-- The number that a value is; a truth value is one or zero. -/
def number? : Value → Option (Quantity Float)
  | whole n _ => some (.whole n)
  | real x _ => some (.real x)
  | bool b => some (.whole (if b then 1 else 0))
  | _ => none

/-- The whole number that a value is. -/
def whole? : Value → Option Int
  | whole n _ => some n
  | bool b => some (if b then 1 else 0)
  | _ => none

/-- The text that a value is. -/
def text? : Value → Option String
  | text s _ | markup s => some s
  | _ => none

/-- Whether a value is markup. -/
def isMarkup : Value → Bool
  | markup _ => true
  | _ => false

/-- Whether a value says how it stands in markup; the class of markup says so in vain. -/
def claimsMarkup : Value → Bool
  | markup _ | builtin (.kind .markup) => true
  | _ => false

/-- The text that a number can be read from. Bytes are taken for characters. -/
def numeral? : Value → Option String
  | text s _ | markup s => some s
  | bytes bs =>
    some (String.ofList (bs.map fun b => if b < 128 then Char.ofNat b.toNat else Char.ofNat 0xFFFD))
  | _ => none

/-- The kind of an argument as messages about single arguments name it. -/
def argumentKind : Value → String
  | null => "None"
  | v => v.kind.name

/-- A number as a value. -/
def ofNumber : Quantity Float → Value
  | .whole n => whole n
  | .real x => real x

/-- The value of a variable that is not there. -/
def missing (name : String) : Value :=
  undefined (Text.quoted name ++ " is undefined")

/-- A value as messages name it that say what it has not got. -/
def described : Value → String
  | null => "None"
  | v => (Builtin.ofKind v.kind).home ++ v.kind.name ++ " object"

/-- A value as messages name it that say which attribute it has not got, with the functions that
make values of a type of their own named by that type. -/
def owner : Value → String
  | builtin f | applied _ f _ =>
    if f.isType then "type object '" ++ f.name ++ "'" else "'" ++ Kind.function.name ++ "' object"
  | v => "'" ++ v.kind.name ++ "' object"

/-- What stands for a part that a value has not got: an attribute or a member under a name, or an
item in another place. -/
def absent (owner place : Value) : Value :=
  if place.text?.isSome then
    undefined (Text.quoted owner.described ++ " has no attribute " ++ place.shown)
  else undefined (owner.described ++ " has no element " ++ place.shown)

end Value

end TagCloud.Template
