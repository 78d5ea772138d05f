import TagCloud.Template.Arithmetic
import TagCloud.Template.Call
import TagCloud.Text.Case

/-!
# Tests

A test says yes or no about a value: `x is t(a)` holds if the test `t` does with the argument `a`.
Most tests ask for the kind of a value, the others compare it with their argument. What is not there
can be tested like everything else.
-/

namespace TagCloud.Template

/-!
## The names of filters and tests

Filters and tests are known by their names, also to each other: a test tells whether there is a
filter or a test of a name, and a filter applies others to the items of a value.
-/

/-- The names of filters. -/
def filterNames : List String :=
  [ "abs", "attr", "batch", "capitalize", "center", "count", "d", "default", "dictsort", "e",
    "escape", "filesizeformat", "first", "float", "forceescape", "format", "groupby", "indent",
    "int", "items", "join", "last", "length", "list", "lower", "map", "max", "min", "pprint",
    "random", "reject", "rejectattr", "replace", "reverse", "round", "safe", "select", "selectattr",
    "slice", "sort", "string", "striptags", "sum", "title", "tojson", "trim", "truncate", "unique",
    "upper", "urlencode", "urlize", "wordcount", "wordwrap", "xmlattr" ]

/-- The names of tests. -/
def testNames : List String :=
  [ "!=", "<", "<=", "==", ">", ">=", "boolean", "callable", "defined", "divisibleby", "eq",
    "equalto", "escaped", "even", "false", "filter", "float", "ge", "greaterthan", "gt", "in",
    "integer", "iterable", "le", "lessthan", "lower", "lt", "mapping", "ne", "none", "number",
    "odd", "sameas", "sequence", "string", "test", "true", "undefined", "upper" ]

/-! ## Tests -/

namespace Test

open Signature (needed)

/-- A value that has items in places. -/
def isSequence : Value → Bool
  | .text _ _ | .markup _ | .bytes _ | .list .. | .tuple _ | .group .. | .dictionary ..
  | .range .. | .reflection ..
  | .undefined _ => true
  | _ => false

/-- A value that is not there. -/
def isUndefined : Value → Bool
  | .undefined _ => true
  | _ => false

/-- A value that is a whole number and no truth value. -/
def isInteger : Value → Bool
  | .whole .. => true
  | _ => false

/-- A value that is a real number. -/
def isReal : Value → Bool
  | .real .. => true
  | _ => false

/-- A value that is a number of any kind. -/
def isNumber : Value → Bool
  | .complex .. => true
  | v => v.number?.isSome

/-- A value that is a dictionary. -/
def isMapping : Value → Bool
  | .dictionary .. | .reflection .. => true
  | _ => false

/-- The text of a value is of a nature. -/
def isWritten (is : List Char → Bool) (v : Value) : Except Fault Bool := do
  return is (← v.written).toList

/-- The remainder of a division by a number is another number. -/
def leaves (v divisor rest : Value) : Except Fault Bool := do
  return (← Value.operate .mod v divisor).equal rest

/-- The tests that look at nothing but the value. -/
def simple : List (String × String × List String × (Value → Except Fault Bool)) :=
  let kind (is : Value → Bool) (v : Value) : Except Fault Bool := .ok (is v)
  let named (names : List String) (v : Value) : Except Fault Bool := do
    return (← v.key).text?.any names.contains
  [ ("odd", "odd", [], fun v => leaves v (.whole 2) (.whole 1)),
    ("even", "even", [], fun v => leaves v (.whole 2) (.whole 0)),
    ("defined", "defined", [], kind fun v => !isUndefined v),
    ("undefined", "undefined", [], kind isUndefined),
    ("none", "none", [], kind fun v => v.kind = .null),
    ("boolean", "boolean", [], kind fun v => v.kind = .truth),
    ("true", "true", [], kind (Value.isSame (.bool true))),
    ("false", "false", [], kind (Value.isSame (.bool false))),
    ("integer", "integer", [], kind isInteger), ("float", "float", [], kind isReal),
    ("number", "number", [], kind isNumber),
    ("string", "string", [], kind fun v => v.text?.isSome),
    ("mapping", "mapping", [], kind isMapping), ("iterable", "iterable", [], kind Value.isWalkable),
    ("sequence", "sequence", [], kind isSequence),
    ("escaped", "escaped", [], kind Value.claimsMarkup),
    ("lower", "lower", [], isWritten Text.isLowerText),
    ("upper", "upper", [], isWritten Text.isUpperText),
    ("filter", "filter", ["env"], named filterNames), ("test", "test", ["env"], named testNames) ]

/-- The tests that compare a value with another one. -/
def comparing : List (String × String × (Value → Value → Except Fault Bool)) :=
  [ ("divisibleby", "num", fun v w => leaves v w (.whole 0)), ("in", "seq", Value.isIn),
    ("sameas", "other", fun v w => .ok (v.isSame w)) ]

/-- The tests for an order between two values, which give nothing by name. -/
def ordering : List (List String × String × (Value → Value → Except Fault Bool)) :=
  [ (["eq", "equalto", "=="], "eq", fun v w => .ok (v.equal w)),
    (["ne", "!="], "ne", fun v w => .ok (!v.equal w)),
    (["lt", "lessthan", "<"], "lt", Value.inOrder .below),
    (["le", "<="], "le", Value.inOrder .atMost),
    (["gt", "greaterthan", ">"], "gt", Value.inOrder .above),
    (["ge", ">="], "ge", Value.inOrder .atLeast) ]

/-- There is a test of a name. -/
def isKnown (name : String) : Bool :=
  testNames.contains name

/-- The only value of a call without names. -/
def single (function : String) (v : Value) (c : Call) : Except Fault Value :=
  if !c.named.isEmpty then .error (.call (.noKeywords function))
  else if !c.row.isEmpty then .error (.call (.exactlyOne function (c.row.length + 1)))
  else .ok v

/-- The name of the function behind a test, with where it is defined. -/
def functionName (name : String) : String :=
  match ordering.find? fun (names, _) => names.contains name with
  | some (_, function, _) => "_operator." ++ function
  | none => if name = "callable" then name else "jinja2.tests.test_" ++ name

/-- Whether the test of a name holds of a value. -/
def holds (name : String) (v : Value) (c : Call) : Except Fault Bool :=
  let bound (function : String) (supplied : List String) (parameters : List Parameter) :=
    ((Signature.mk ("test_" ++ function) supplied parameters).bind ⟨v :: c.row, c.named⟩).mapError
      Fault.call
  match simple.lookup name, comparing.lookup name,
    ordering.find? fun (names, _) => names.contains name with
  | some (function, supplied, f), _, _ => do
    let _ ← bound function supplied [needed "value"]
    f v
  | none, some (parameter, f), _ => do
    match ← bound name [] [needed "value", needed parameter] with
    | [v, w] => f v w
    | _ => .error .unsupported
  | none, none, some (_, function, f) =>
    if !c.named.isEmpty then .error (.call (.noKeywords ("_operator." ++ function)))
    else
      match c.row with
      | [w] => f v w
      | row => .error (.call (.exactly function 2 (row.length + 1)))
  | none, none, none =>
    if name = "callable" then (single name v c).map Value.isCallable else .error .unsupported

end Test

end TagCloud.Template
