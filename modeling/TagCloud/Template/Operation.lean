import TagCloud.Tags

/-!
# The methods behind operators

Behind the operators and behind what asks a value for its length, its text or its items stand
methods, whose names have two low lines at each end. Most of them are called by the operators alone,
and take their arguments as operators do; some are methods like others.
-/

namespace TagCloud.Template

namespace Operation

/-- The name of the method behind an operation. -/
def full (operation : String) : String :=
  "__" ++ operation ++ "__"

/-- The operation that the method of a name stands behind. -/
def ofName? (name : String) : Option String :=
  let cs := name.toList
  if 4 < cs.length && name.startsWith "__" && name.endsWith "__" then
    some (String.ofList ((cs.drop 2).take (cs.length - 4)))
  else none

/-- The operations that stop at values that are not there. -/
def failing : List String :=
  [ "add", "radd", "sub", "rsub", "mul", "rmul", "div", "rdiv", "truediv", "rtruediv", "floordiv",
    "rfloordiv", "mod", "rmod", "pos", "neg", "call", "getitem", "lt", "le", "gt", "ge", "int",
    "float", "complex", "pow", "rpow" ]

/-- The operations on values of all kinds. -/
def general : List String :=
  [ "eq", "ne", "lt", "le", "gt", "ge", "repr", "str", "init", "setattr", "delattr", "getattribute",
    "format", "getstate", "init_subclass", "subclasshook", "new", "reduce", "reduce_ex", "sizeof",
    "dir" ]

/-- The operations on numbers. -/
def ofNumbers : List String :=
  [ "abs", "add", "bool", "getnewargs", "mul", "neg", "pos", "pow", "radd", "rmul", "rpow", "rsub",
    "rtruediv", "sub", "truediv" ]

/-- The operations on whole and on real numbers beside those. -/
def ofReals : List String :=
  [ "ceil", "divmod", "float", "floor", "floordiv", "int", "mod", "rdivmod", "rfloordiv", "rmod",
    "round", "trunc" ]

/-- The operations on whole numbers beside those. -/
def ofWholes : List String :=
  [ "and", "index", "invert", "lshift", "or", "rand", "rlshift", "ror", "rrshift", "rshift", "rxor",
    "xor" ]

/-- The operations on rows. -/
def ofRows : List String :=
  ["add", "contains", "getitem", "iter", "len", "mul", "rmul"]

/-- The operations on sets. -/
def ofSets : List String :=
  ["and", "contains", "iter", "len", "or", "rand", "ror", "rsub", "rxor", "sub", "xor"]

/-- The operations on what gives its items one by one. -/
def ofIterators : List String :=
  ["iter", "next"]

/-- Values of a kind give their items one by one. -/
def isIterator (name : String) : Bool :=
  name.endsWith "iterator" || name = "reversed"

/-- Values of a kind are not fit for keys. -/
def isUnhashable : Kind → Bool
  | .list | .dictionary | .set => true
  | .other name => ["dict_keys", "dict_items", "mappingproxy", "slice"].contains name
  | _ => false

/-- The operations on the values of a kind beside the general ones. -/
def special : Kind → List String
  | .null => ["bool"]
  | .whole | .truth => ofNumbers ++ ofReals ++ ofWholes
  | .real => ofNumbers ++ ofReals
  | .text => ofRows ++ ["getnewargs", "mod", "rmod"]
  | .markup => ofRows ++ ["getnewargs", "html", "html_format", "mod", "radd", "rmod"]
  | .bytes => ofRows ++ ["bytes", "getnewargs", "mod", "rmod"]
  | .list => ofRows ++ ["class_getitem", "delitem", "iadd", "imul", "reversed", "setitem"]
  | .tuple | .other "_GroupTuple" => ofRows ++ ["class_getitem", "getnewargs"]
  | .set => ofSets ++ ["class_getitem", "iand", "ior", "isub", "ixor"]
  | .frozenSet => ofSets ++ ["class_getitem"]
  | .dictionary =>
    [ "class_getitem", "contains", "delitem", "getitem", "ior", "iter", "len", "or", "reversed",
      "ror", "setitem" ]
  | .range => ["bool", "contains", "getitem", "iter", "len", "reversed"]
  | .type => ["call", "instancecheck", "subclasscheck"]
  | .function | .method | .other "method" | .other "method-wrapper" | .other "method_descriptor"
  | .other "wrapper_descriptor" => ["call"]
  | .undefined => []
  | .other "complex" => "complex" :: ofNumbers
  | .other "dict_keys" | .other "dict_items" => "reversed" :: ofSets
  | .other "dict_values" => ["iter", "len", "reversed"]
  | .other "mappingproxy" =>
    ["class_getitem", "contains", "getitem", "ior", "iter", "len", "or", "reversed", "ror"]
  | .other "generator" => ofIterators
  | .other "types.GenericAlias" => ["call", "getitem", "iter"]
  | .other "Cycler" => ["next"]
  | .other "Joiner" => ["call"]
  | .other "TemplateReference" => ["getitem"]
  | .other name => if isIterator name then "length_hint" :: ofIterators else []

/-- The operations on the values of a kind. -/
def all (k : Kind) : List String :=
  match k with
  | .other "Namespace" => []
  | .undefined =>
    failing ++ ["len", "iter", "bool"]
      ++ general.filter fun operation => !failing.contains operation
  | k => general ++ special k

/-- The operations whose methods are like other methods, for whatever kind. -/
def plain : List String :=
  [ "bytes", "ceil", "class_getitem", "complex", "dir", "floor", "format", "getnewargs", "getstate",
    "init_subclass", "instancecheck", "length_hint", "new", "reduce", "reduce_ex", "reversed",
    "round", "sizeof", "subclasscheck", "subclasshook", "trunc" ]

/-- The method behind an operation on the values of a kind is like other methods. -/
def isPlain (k : Kind) (operation : String) : Bool :=
  plain.contains operation
    || match k with
      | .list => operation = "getitem"
      | .dictionary => operation = "getitem" || operation = "contains"
      | .set | .frozenSet => operation = "contains"
      | _ => false

/-- The operations on markup, on what is not there and on small tools are functions. -/
def isFunction (k : Kind) (operation : String) : Bool :=
  match k with
  | .markup =>
    ["add", "getitem", "html", "html_format", "mod", "mul", "radd", "repr", "rmul"].contains
      operation
  | .undefined =>
    failing.contains operation
      || ["eq", "ne", "str", "repr", "len", "iter", "bool", "hash", "init"].contains operation
  | .other "Cycler" | .other "Joiner" => ["init", "next", "call"].contains operation
  | .other "TemplateReference" => ["getitem", "init", "repr"].contains operation
  | .other "_GroupTuple" => ["getnewargs", "repr", "str"].contains operation
  | _ => false

/-- The orders and what goes with them. -/
def comparisons : List String :=
  ["eq", "ne", "lt", "le", "gt", "ge"]

/-- The general operations that the values of a kind have methods of their own for. -/
def ownGeneral : Kind → List String
  | .null => ["repr", "new"]
  | .whole => comparisons ++ ["repr", "hash", "format", "getattribute", "sizeof", "new"]
  | .real | .other "complex" => comparisons ++ ["repr", "hash", "format", "getattribute", "new"]
  | .text => comparisons ++ ["repr", "str", "hash", "format", "getattribute", "sizeof", "new"]
  | .bytes => comparisons ++ ["repr", "str", "hash", "getattribute", "new"]
  | .list | .dictionary => comparisons ++ ["repr", "init", "getattribute", "sizeof", "new"]
  | .tuple => comparisons ++ ["repr", "hash", "getattribute", "new"]
  | .set => comparisons ++ ["repr", "init", "getattribute", "sizeof", "new", "reduce"]
  | .frozenSet => comparisons ++ ["repr", "hash", "getattribute", "sizeof", "new", "reduce"]
  | .range => comparisons ++ ["repr", "hash", "getattribute", "new", "reduce"]
  | .type => ["repr", "getattribute", "init", "setattr", "delattr", "dir", "new", "sizeof"]
  | .function => ["repr", "getattribute", "new"]
  | .method => comparisons ++ ["repr", "hash", "getattribute", "reduce"]
  | .other "dict_keys" | .other "dict_items" => comparisons ++ ["repr", "getattribute"]
  | .other "dict_values" => ["repr", "getattribute"]
  | .other "mappingproxy" => comparisons ++ ["repr", "str", "getattribute", "new"]
  | .other "generator" => ["repr", "getattribute", "sizeof"]
  | .other "slice" => comparisons ++ ["repr", "getattribute", "new", "reduce"]
  | .other "types.GenericAlias" =>
    comparisons ++ ["repr", "hash", "getattribute", "dir", "new", "reduce"]
  | .other "object" => "hash" :: general
  | .other name => if isIterator name then ["getattribute", "reduce"] else ["repr"]
  | _ => general

/-- The kind in which the method behind an operation on the values of a kind is defined. -/
def definer (k : Kind) (operation : String) : Kind :=
  let k :=
    match k with
    | .truth =>
      if ["and", "or", "xor", "rand", "ror", "rxor", "repr", "new"].contains operation then .truth
      else .whole
    | .markup => if isFunction .markup operation || operation = "new" then .markup else .text
    | .other "_GroupTuple" =>
      if ["repr", "str", "new", "getnewargs"].contains operation then .other "_GroupTuple"
      else .tuple
    | k => k
  if !("hash" :: general).contains operation || (ownGeneral k).contains operation
      || isFunction k operation || k = .other "_GroupTuple" || k = .truth || k = .markup then k
  else .other "object"

/-- The operations whose methods belong to a type and not to its values. -/
def ofTypes : List String :=
  ["class_getitem", "init_subclass", "new", "subclasshook"]

/-- The names of the methods behind the operations on the values of a kind. -/
def methodNames (k : Kind) : List String :=
  let hashed := if isUnhashable k then [] else ["hash"]
  (all k ++ if (all k).isEmpty then [] else hashed).map full

end Operation

end TagCloud.Template
