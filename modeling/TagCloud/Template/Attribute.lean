import TagCloud.Template.Call
import TagCloud.Text.Case

/-!
# Attributes and methods

What is asked for behind a point is an attribute of the value first and an item of it second; what
is asked for in brackets is an item first and an attribute second. If there is neither, the outcome
is a value that is not there. Only with a value that itself is not there nothing can be asked for.

Most attributes are methods. They can be shown and called, and they have attributes themselves.
-/

namespace TagCloud.Template

/-- The methods of texts. -/
def textMethods : List String :=
  [ "capitalize", "casefold", "center", "count", "encode", "endswith", "expandtabs", "find",
    "format", "format_map", "index", "isalnum", "isalpha", "isascii", "isdecimal", "isdigit",
    "isidentifier", "islower", "isnumeric", "isprintable", "isspace", "istitle", "isupper", "join",
    "ljust", "lower", "lstrip", "maketrans", "partition", "removeprefix", "removesuffix", "replace",
    "rfind", "rindex", "rjust", "rpartition", "rsplit", "rstrip", "split", "splitlines",
    "startswith", "strip", "swapcase", "title", "translate", "upper", "zfill" ]

/-- The methods that markup has beside those of texts. -/
def markupMethods : List String :=
  ["escape", "striptags", "unescape"]

/-- The methods of lists. -/
def listMethods : List String :=
  ["append", "clear", "copy", "count", "extend", "index", "insert", "pop", "remove", "reverse",
    "sort"]

/-- The methods of dictionaries. -/
def dictionaryMethods : List String :=
  ["clear", "copy", "fromkeys", "get", "items", "keys", "pop", "popitem", "setdefault", "update",
    "values"]

/-- The methods of what reflects a dictionary. -/
def reflectionMethods : List String :=
  ["copy", "get", "items", "keys", "values"]

/-- The methods of whole numbers. -/
def wholeMethods : List String :=
  ["as_integer_ratio", "bit_count", "bit_length", "conjugate", "from_bytes", "to_bytes"]

/-- The methods of real numbers. -/
def realMethods : List String :=
  ["as_integer_ratio", "conjugate", "fromhex", "hex", "is_integer"]

/-- The methods of bytes. -/
def bytesMethods : List String :=
  [ "capitalize", "center", "count", "decode", "endswith", "expandtabs", "find", "fromhex", "hex",
    "index", "isalnum", "isalpha", "isascii", "isdigit", "islower", "isspace", "istitle", "isupper",
    "join", "ljust", "lower", "lstrip", "maketrans", "partition", "removeprefix", "removesuffix",
    "replace", "rfind", "rindex", "rjust", "rpartition", "rsplit", "rstrip", "split", "splitlines",
    "startswith", "strip", "swapcase", "title", "translate", "upper", "zfill" ]

/-- The methods of sets that cannot be changed. -/
def frozenMethods : List String :=
  [ "copy", "difference", "intersection", "isdisjoint", "issubset", "issuperset",
    "symmetric_difference", "union" ]

/-- The methods that sets have beside those. -/
def setMethods : List String :=
  [ "add", "clear", "difference_update", "discard", "intersection_update", "pop", "remove",
    "symmetric_difference_update", "update" ]

namespace Value

/-- The names of the methods of the values of a kind. -/
def methodsOf : Kind → List String
  | .text => textMethods
  | .markup => textMethods ++ markupMethods
  | .list => listMethods
  | .dictionary => dictionaryMethods
  | .tuple | .range => ["count", "index"]
  | .other "_GroupTuple" => ["_asdict", "count", "index"]
  | .whole | .truth => wholeMethods
  | .real => realMethods
  | .other "complex" => ["conjugate"]
  | .bytes => bytesMethods
  | .frozenSet => frozenMethods
  | .set => frozenMethods ++ setMethods
  | .other "dict_keys" | .other "dict_items" => ["isdisjoint"]
  | .other "mappingproxy" => reflectionMethods
  | .other "Cycler" => ["next", "reset"]
  | .other "generator" => ["close", "send"]
  | .undefined => ["_fail_with_undefined_error"]
  | _ => []

/-- The more general kinds of which the values of a kind are, one after the other. -/
def wider : Kind → List Kind
  | .other "object" => []
  | .truth => [.whole, anyKind]
  | .markup => [.text, anyKind]
  | .other "_GroupTuple" => [.tuple, anyKind]
  | _ => [anyKind]

/-- What a type says about the types that it goes back to. -/
def ancestry (f : Builtin) : List (String × Value) :=
  let types := (wider (kindOfType f)).map fun k => builtin (.ofKind k)
  [ ("__base__", types.headD null), ("__bases__", tuple (types.take 1)),
    ("__mro__", tuple (builtin f :: types)) ]

/-- The names that a function or a type is known by, the module that it is defined in, and the types
that it goes back to. What every template has by itself is defined in no module that could be
named. -/
def namesOf (f : Builtin) : List (String × Value) :=
  let home := String.ofList f.home.toList.dropLast
  let names := [("__name__", text f.name), ("__qualname__", text f.name)]
  match f with
  | .cloud => names
  | _ =>
    ("__module__", text (if home.isEmpty then "builtins" else home))
      :: names ++ if f.isType then ancestry f else []

/-- The type of the values of a kind. -/
def typeOf (k : Kind) : Value :=
  builtin (.ofKind k)

/-- The names that a method is known by, its receiver, and where it is defined. -/
def namesOfMethod (receiver : Value) (name : String) : List (String × Value) :=
  let k := receiver.instances?.getD receiver.kind
  let sort := (method receiver name).kind
  let definer := ((Operation.ofName? name).map (Operation.definer k)).getD k
  let name := shownName receiver name
  let known := [("__name__", text name), ("__qualname__", text (definer.name ++ "." ++ name))]
  let home := text (if k = .markup then "markupsafe" else "jinja2.utils")
  let whose :=
    match sort with
    | .other "method-wrapper" => [("__self__", receiver), ("__objclass__", typeOf definer)]
    | .other "method" =>
      [("__self__", receiver), ("__module__", home)]
    | .function => [("__module__", home)]
    | .method => [("__self__", receiver), ("__module__", null)]
    | _ => [("__objclass__", typeOf definer)]
  known ++ whose

/-- A tuple of names. -/
def names (ns : List String) : Value :=
  tuple (ns.map text)

/-- The parts of what is not there. -/
def absentParts : List String :=
  ["_undefined_hint", "_undefined_obj", "_undefined_name", "_undefined_exception"]

/-- What small tools have beside their own parts. -/
def ofTool (own : List (String × Value)) : List (String × Value) :=
  [ ("__module__", text "jinja2.utils"),
    ("__dict__", dictionary none (own.map fun (name, v) => (text name, v))), ("__weakref__", null) ]

/-- An attribute of a value that is no method. -/
def part? (v : Value) (name : String) : Option Value :=
  match v, v.number? with
  | builtin f, _ => (namesOf f).lookup name
  | applied _ f arguments, _ =>
    ([("__origin__", builtin f), ("__args__", tuple arguments)] ++ namesOf f).lookup name
  | method receiver called, _ => (namesOfMethod receiver called).lookup name
  | range start stop step, _ =>
    [("start", whole start), ("stop", whole stop), ("step", whole step)].lookup name
  | complex x y, _ => [("real", real x), ("imag", real y)].lookup name
  | markup _, _ => [("__module__", text "markupsafe"), ("__slots__", tuple [])].lookup name
  | group key items, _ =>
    [ ("grouper", key), ("list", list none items), ("__module__", text "jinja2.filters"),
      ("__match_args__", names ["grouper", "list"]), ("__slots__", tuple []),
      ("_fields", names ["grouper", "list"]), ("_field_defaults", dictionary none []) ].lookup name
  | cycler _ items place, _ =>
    let own := [("items", tuple items), ("pos", whole (Int.ofNat place))]
    (own ++ [("current", items.getD place null)] ++ ofTool own).lookup name
  | joiner _ separator used, _ =>
    let own := [("sep", separator), ("used", bool used)]
    (own ++ ofTool own).lookup name
  | iterator _ function .., _ =>
    if v.kind ≠ .other "generator" then none
    else
      [ ("__name__", text (((function.splitOn ".").getLast?).getD function)),
        ("__qualname__", text function), ("gi_running", bool false),
        ("gi_yieldfrom", null) ].lookup name
  | undefined complaint, _ =>
    [ ("_undefined_message", text complaint), ("__module__", text "jinja2.runtime"),
      ("__slots__", names absentParts) ].lookup name
  | space _ members, _ => member? (text name) members
  | view _ h members, _ => [("mapping", reflection h members)].lookup name
  | v, some (.whole n) =>
    let same := if v.kind = .truth then whole n else v
    [("real", same), ("numerator", same), ("imag", whole 0), ("denominator", whole 1)].lookup name
  | v, some (.real _) => [("real", v), ("imag", real 0.0)].lookup name
  | _, none => none

/-- An attribute of a value. The class of a value is one, and a class has the methods of its
values. -/
def attribute? (v : Value) (name : String) : Option Value :=
  match v.part? name with
  | some part => some part
  | none =>
    if name = "__class__" then some (builtin (.ofKind v.kind))
    else if name = "__hash__" && Operation.isUnhashable (v.instances?.getD v.kind) then some null
    else if (methodsOf (v.instances?.getD v.kind)).contains name
        || (Operation.methodNames (v.instances?.getD v.kind)).contains name
        || (Operation.methodNames v.kind).contains name || (name = "mro" && v.kind = .type)
        || (v.instances?.bind (holder? · name)).isSome then
      some (method v name)
    else none

/-- What is wrong where a value has not got an attribute that it has to have. -/
def lacking (v : Value) (name : String) : Fault :=
  match v with
  | space .. => .noMember name
  | v => .noAttribute v.owner name

/-- What a value has under a name behind a point. -/
def behindPoint (v : Value) (name : String) : Except Fault Value :=
  match v, v.attribute? name with
  | _, some w => .ok w
  | undefined complaint, none => .error (.undefined complaint)
  | v, none => .ok ((v.item? (text name)).getD (absent v (text name)))

/-- What a value has in a place, or under a key. -/
def inBrackets (v place : Value) : Except Fault Value :=
  match v with
  | undefined complaint => .error (.undefined complaint)
  | v =>
    match v.item? place, place.text? with
    | some found, _ => .ok found
    | none, some name => .ok ((v.attribute? name).getD (absent v place))
    | none, none => .ok (absent v place)

end Value

end TagCloud.Template
