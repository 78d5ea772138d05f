import TagCloud.Template.Attribute
import TagCloud.Template.Format.Number
import TagCloud.Template.Method.Markup
import TagCloud.Template.Method.Members
import TagCloud.Template.Method.Operation.Number
import TagCloud.Template.Method.Row

/-!
# The methods behind operators

What an operator does can be asked for by the name of its method. A method that is not for its
argument declines where the operator would ask the other operand first. Values that can be changed
are changed by the methods behind assignments.

The methods of markup, and those of what is not there, are functions, and take their arguments as
functions do.
-/

namespace TagCloud.Template

namespace Operation

open Value (text markup bytes list tuple group set dictionary reflection view iterator declined)
open Signature (needed usually placed)

/-! ## Arguments -/

/-- How the method behind an operation takes its arguments. -/
def takingOf (k : Kind) (operation : String) : Taking :=
  if isPlain k operation then
    if ["class_getitem", "contains", "format", "getitem", "instancecheck", "reduce_ex",
      "subclasscheck"].contains operation then .one
    else if operation = "subclasshook" then .row 0 1000
    else if operation = "round" then .row 0 1
    else .nothing
  else if ["mul", "rmul", "imul"].contains operation && !(special k).contains "abs" then
    .bareRow 1 1
  else if operation = "setitem" || operation = "setattr" then .bareRow 2 2
  else if operation = "pow" || operation = "rpow" then .bareRow 1 2
  else if ["abs", "bool", "float", "hash", "index", "int", "invert", "iter", "len", "neg", "next",
    "pos", "repr", "str"].contains operation then .bare 0
  else .bare 1

/-- The parameters of a method that is a function. -/
def parametersOf (operation : String) : List Parameter :=
  match operation with
  | "add" | "radd" | "mul" | "rmul" | "mod" => [placed (needed "value")]
  | "getitem" => [placed (needed "key")]
  | "html_format" => [placed (needed "format_spec")]
  | "eq" | "ne" => [needed "other"]
  | _ => []

/-- The arguments of a method of the values of a kind, in their order. -/
def argumentsFor (k : Kind) (operation : String) (c : Call) : Except CallFault (List Value) := do
  if isFunction k operation then
    let name := if k = .other "Cycler" then "next" else full operation
    (Signature.mk (k.name ++ "." ++ name) ["self"] (parametersOf operation)).bind c
  else
    let vs ← (takingOf k operation).arguments k.name (full operation) c
    return vs.filterMap id

/-- The arguments of a method of a value, in their order. -/
def argumentsOf (v : Value) (operation : String) (c : Call) : Except CallFault (List Value) :=
  argumentsFor (if ofTypes.contains operation then v.instances?.getD v.kind else v.kind) operation c

/-! ## Comparisons -/

/-- A value can be compared with another one, for an order if one is wanted. -/
def isComparable (ordered : Bool) (v w : Value) : Bool :=
  match v with
  | .text .. | .markup _ => w.text?.isSome
  | .complex .. => !ordered && takes v w
  | .whole .. | .bool _ | .real .. => takes v w
  | .bytes _ => w.kind = .bytes
  | .list .. => w.kind = .list
  | .tuple _ | .group .. => (Arithmetic.tupleItems? w).isSome
  | .set .. => w.kind = .set || w.kind = .frozenSet
  | .view "dict_values" .. => false
  | .view .. => w.setItems?.isSome
  | .dictionary .. | .range .. | .bounds .. | .applied .. | .method .. =>
    !ordered && v.kind = w.kind
  | .reflection .. => true
  | .undefined _ => !ordered
  | _ => false

/-- The orders by the names of their methods. -/
def orders : List (String × Value.Relation) :=
  [("lt", .below), ("le", .atMost), ("gt", .above), ("ge", .atLeast)]

/-- What a comparison by a method makes. -/
def compared (operation : String) (v w : Value) : Except Fault Value :=
  let (v, decided) :=
    match v with
    | .reflection _ members => (dictionary none members, true)
    | v => (v, false)
  match List.lookup operation orders with
  | some r => if decided || isComparable true v w then (v.inOrder r w).map .bool else .ok declined
  | none =>
    let isEqual := operation = "eq"
    if decided || isComparable false v w then .ok (.bool (v.equal w == isEqual))
    else if v.isSame w then .ok (.bool isEqual)
    else .ok declined

/-! ## Values of any kind -/

/-- The attribute of a value that an argument names. -/
def attributeBy (v name : Value) : Except Fault (String × Option Value) :=
  match name.text? with
  | some s => .ok (s, v.attribute? s)
  | none => .error (.attributeName name.kind.name)

/-- Refuses to change an attribute. -/
def refuseChange (v name : Value) : Except Fault Value := do
  let (name, part) ← attributeBy v name
  match v with
  | .cycler .. | .joiner .. | .space .. => throw .unsupported
  | v => throw (if part.isSome then .readOnly v.owner name else .noAttribute v.owner name)

/-- The specification that an argument is. -/
def specificationOf (w : Value) : Except Fault (List Char) :=
  match w.text? with
  | some s => .ok s.toList
  | none => .error (.method (.wanted "__format__() argument must be str" w.argumentKind))

/-- The type of some arguments. -/
def typeOf (v w : Value) : Value :=
  .applied false (.ofKind (v.instances?.getD v.kind)) (match w with | .tuple vs => vs | w => [w])

/-- A number as the value of a size. -/
def size (n : Nat) : Value :=
  .whole (Int.ofNat n)

/-- The room that a text takes: the wider its widest character, the more each of them. -/
def textSize (s : String) : Nat :=
  let widest := s.foldl (fun n c => max n c.toNat) 0
  if widest < 128 then 49 + s.length
  else if widest < 256 then 73 + s.length
  else if widest < 65536 then 74 + 2 * s.length
  else 76 + 4 * s.length

/-- The room that a value takes, if its kind and what it holds settle it. -/
def sizeOf? (v : Value) : Option Nat :=
  match v, v.whole? with
  | _, some n => some (24 + 4 * max 1 ((n.natAbs.log2 + 30) / 30))
  | .text s _, _ | .markup s, _ => some (textSize s)
  | .real .., _ => some 24
  | .complex .., _ => some 32
  | .bytes bs, _ => some (33 + bs.length)
  | .tuple vs, _ => some (24 + 8 * vs.length)
  | .group .., _ => some 40
  | .list _ vs, _ => some (40 + 8 * vs.length)
  | .set _ _ vs, _ => if vs.length < 5 then some 200 else none
  | .dictionary _ members, _ => if members.isEmpty then some 48 else none
  | .range .., _ => some 48
  | .bounds .., _ => some 40
  | .null, _ | .declined, _ => some 16
  | .view .., _ | .reflection .., _ => some 24
  | .iterator .., _ => some 32
  | .method .., _ => some (if v.kind = .method then 56 else 32)
  | _, none => none

/-- What a value can be made from again: its type, and what the type makes it of. -/
def reduced (v : Value) : Except Fault Value :=
  let type : Value := .builtin (.ofKind v.kind)
  match v with
  | .range start stop step => .ok (tuple [type, tuple [.whole start, .whole stop, .whole step]])
  | .set _ _ vs => .ok (tuple [type, tuple [list none vs], .null])
  | .bounds start stop step => .ok (tuple [type, tuple [start, stop, step]])
  | .applied _ f vs => .ok (tuple [type, tuple [.builtin f, tuple vs]])
  | .iterator .. | .method .. | .cycler .. | .joiner .. | .builtin _ => .error .unsupported
  | v => .error (.method (.notReduced v.kind.name))

/-- The names of what a value has. -/
def namesOf (v : Value) : Value :=
  let k := v.instances?.getD v.kind
  let parts := ["__class__", "__doc__", "__hash__", "__module__", "__dict__", "__weakref__",
    "__slots__", "__name__", "__qualname__", "__self__", "__objclass__", "__text_signature__",
    "__match_args__", "_fields", "_field_defaults", "real", "imag", "numerator", "denominator",
    "start", "stop", "step", "mapping", "items", "pos", "current", "sep", "used", "grouper", "list",
    "gi_running", "gi_yieldfrom"]
  let known := (parts.filter fun name => name = "__doc__" || (v.attribute? name).isSome)
    ++ Value.methodsOf k ++ methodNames k
  list none ((known.eraseDups.mergeSort (· ≤ ·)).map fun name => text name)

/-- What a method that all values have makes. -/
def general? (v : Value) (operation : String) (vs : List Value) : Option (Except Fault Value) :=
  match operation, vs with
  | "repr", [] => some (if v.isOverlong then .error .overlong else .ok (text v.shown))
  | "str", [] => some v.asText
  | "hash", [] => some (hash v)
  | "format", [w] => some do return .ofChars (← v.formatted (← specificationOf w))
  | "getattribute", [name] => some do
    match ← attributeBy v name with
    | (_, some part) => return part
    | (name, none) => throw (v.lacking name)
  | "setattr", [name, _] | "delattr", [name] => some (refuseChange v name)
  | "sizeof", [] => some ((sizeOf? v).elim (.error .unsupported) fun n => .ok (size n))
  | "reduce", [] => some (reduced v)
  | "dir", [] => some (.ok (namesOf v))
  | "reduce_ex", [w] =>
    match w.whole? with
    | none => some (.error (.notAnInteger w.kind.name))
    | some n => if n < 2 then some (reduced v) else none
  | "getstate", [] | "init_subclass", [] => some (.ok .null)
  | "subclasshook", _ => some (.ok declined)
  | "class_getitem", [w] => some (.ok (typeOf v w))
  | operation, [w] =>
    if ["eq", "ne", "lt", "le", "gt", "ge"].contains operation then some (compared operation v w)
    else none
  | _, _ => none

/-! ## Rows -/

/-- What a method makes of a row and another value. -/
def ofRow? (v : Value) (operation : String) (vs : List Value) : Option (Except Fault Value) :=
  match operation, vs with
  | "add", [w] =>
    some (match v, w with
      | .text s _, .markup t => .ok (text (s ++ t))
      | .markup _, w =>
        if w.text?.isSome || w.claimsMarkup then Arithmetic.join v w else .ok declined
      | v, .undefined _ => Arithmetic.join v (.undefined "")
      | v, w => Arithmetic.join v w)
  | "radd", [w] =>
    some (if w.text?.isSome || w.claimsMarkup then Arithmetic.join w v else .ok declined)
  | "mul", [w] | "rmul", [w] =>
    (Arithmetic.repeatable? v).map fun row => Arithmetic.repeat true row w
  | "mod", [w] => some (v.operate .mod w)
  | "rmod", [w] =>
    some (match v, w with
      | .bytes _, .bytes _ => w.operate .mod v
      | .bytes _, _ => .ok declined
      | v, .text s _ | v, .markup s => (text s).operate .mod v
      | _, _ => .ok declined)
  | "getnewargs", [] =>
    some (.ok (match v with
      | .markup s => tuple [text s]
      | .group k vs => tuple [k, list none vs]
      | v => tuple [v]))
  | "bytes", [] | "html", [] => some (.ok v)
  | "html_format", [w] =>
    some (if w.isEmpty then .ok v else .error (.field .markupSpecification))
  | _, _ => none

/-- What a method makes of a value with items. -/
def ofItems? (v : Value) (operation : String) (vs : List Value) : Option (Except Fault Value) :=
  match operation, vs with
  | "len", [] => some do return .whole (Int.ofNat (← v.length))
  | "bool", [] => some (.ok (.bool !v.isEmpty))
  | "contains", [w] => some do return .bool (← w.isIn v)
  | "getitem", [place] => some do
    match place with
    | .bounds start stop step => v.slice start stop step
    | place => v.element place
  | "iter", [] => some v.walk
  | "reversed", [] => some do return iterator none v.backwardsName (← v.backwards) v.ending?
  | "length_hint", [] => some (.ok (.whole (Int.ofNat ((v.items?.map List.length).getD 0))))
  | _, _ => none

/-! ## Sets and dictionaries -/

/-- The rules by which two sets are combined, by the names of their methods. -/
def combining : List (String × Sets.Rule) :=
  [ ("and", Sets.intersection), ("or", Sets.union), ("sub", Sets.difference),
    ("xor", Sets.symmetricDifference) ]

/-- The rules by which a set becomes another one in its place. -/
def becoming : List (String × Sets.Rule) :=
  [ ("iand", Sets.intersection), ("ior", Sets.union), ("isub", Sets.remainder),
    ("ixor", Sets.symmetricDifference) ]

/-- The items that two sets make. What is in one of them only begins with the second one. -/
def pairing (operation : String) (rule : Sets.Rule) : Sets.Rule := fun v vs w ws =>
  if operation.endsWith "xor" then rule w ws v vs else rule v vs w ws

/-- The items that a view of a dictionary and another value make. What is common is found by going
through the shorter one, and nothing but items is taken from a view. -/
def viewing (operation : String) (rule : Sets.Rule) : Sets.Rule := fun v vs w ws =>
  if operation.endsWith "and" then
    if Sets.isSet w && vs.length ≤ ws.length then Sets.intersection w ws v vs
    else if w.isKeyView && vs.length < ws.length then
      Arrangement.arranged (vs.filter (·.isAmong ws))
    else Arrangement.arranged (ws.filter (·.isAmong vs))
  else if operation.endsWith "sub" then Sets.remainder (Sets.source v) vs w ws
  else rule (Sets.source v) vs w ws

/-- What a method makes of a set, or of a view that is taken for one, and another value. -/
def ofSet? (v : Value) (operation : String) (w : Value) : Option (Except Fault Value.Outcome) :=
  let back := if operation.startsWith "r" then String.ofList (operation.toList.drop 1) else ""
  let forth := List.lookup operation combining
  let back := List.lookup back combining
  let inside := List.lookup operation becoming
  match v, forth.or (back.or inside) with
  | .set h frozen vs, some f =>
    some do
      if !Sets.isSet w then return (declined, none)
      let ws ← Sets.itemsOf w
      match forth, back with
      | some f, _ => return (.set none frozen (pairing operation f v vs w ws), none)
      | _, some f =>
        return (.set none (w.kind = .frozenSet) (pairing operation f w ws v vs), none)
      | none, none =>
        let made := .set h frozen (f v vs w ws)
        return (made, some made)
  | .view .., some f => some do
    let vs ← Sets.itemsOf v
    let ws ← Sets.itemsOf w
    let made :=
      if forth.isSome then viewing operation f v vs w ws else viewing operation f w ws v vs
    return (.set none false made, none)
  | _, _ => none

/-- What a method makes of a dictionary and its arguments. -/
def ofMembers? (v : Value) (members : Members) (operation : String) (vs : List Value) :
    Option (Except Fault Value.Outcome) :=
  let isMembers (w : Value) : Option Members :=
    match w, v with
    | .dictionary _ more, _ | .reflection _ more, .reflection .. => some more
    | _, _ => none
  match operation, vs with
  | "or", [w] | "ror", [w] => some do
    match isMembers w with
    | some more =>
      let (front, back) := if operation = "or" then (members, more) else (more, members)
      return (dictionary none (← Members.putAll front back), none)
    | none =>
      if v matches .reflection .. then
        let (left, right) :=
          if operation = "or" then ("dict", w.kind.name) else (w.kind.name, "dict")
        throw (.operator (.operands "|" left right))
      return (declined, none)
  | operation, vs =>
    match v, operation, vs with
    | .dictionary h _, "ior", [w] => some do
      let made := dictionary h (← Members.merged members w)
      return (made, some made)
    | .reflection .., "ior", [_] =>
      some (.error (.operator (.operands "|=" "mappingproxy" (vs.headD .null).kind.name)))
    | .dictionary h _, "setitem", [k, w] => some do
      return (.null, some (dictionary h (← Members.putAll members [(k, w)])))
    | .dictionary h _, "delitem", [k] => some do
      let _ ← k.key
      if (Value.member? k members).isNone then throw k.lacksKey
      return (.null, some (dictionary h (members.filter fun (l, _) => !l.isLike k)))
    | _, _, _ => none

/-- A place of a list that something is assigned to. -/
def assigned (vs : List Value) (place : Value) : Except Fault Nat := do
  match place.whole? with
  | none => throw (.placeKind "list" place.kind.name)
  | some n =>
    match Value.placeOf? vs.length n with
    | some i => return i
    | none =>
      throw (if n < -Value.placeLimit - 1 || Value.placeLimit < n then .placeRange
        else .noIndex "list assignment")

/-- What a method that changes a list makes. -/
def ofList? (h : Handle) (vs : List Value) (operation : String) (arguments : List Value) :
    Option (Except Fault Value.Outcome) :=
  let become (v : Value) : Value.Outcome := (v, some v)
  match operation, arguments with
  | "iadd", [w] => some do return become (list h (vs ++ (← w.items)))
  | "imul", [w] => some do
    let row : Arithmetic.Repeatable :=
      ⟨vs.length, Room.items, .memory, fun n => list h (Arithmetic.repeated vs n)⟩
    return become (← Arithmetic.repeat true row w)
  | "setitem", [place, w] => some do return (.null, some (list h (vs.set (← assigned vs place) w)))
  | "delitem", [place] => some do
    return (.null, some (list h (vs.eraseIdx (← assigned vs place))))
  | _, _ => none

/-! ## What gives its items one by one -/

/-- What is said of a call for the next item where there is none. -/
def exhausted : String :=
  "value was undefined because a callable raised a StopIteration exception"

/-- The next item, and what is left. -/
def next (h : Handle) (name : String) (vs : List Value) (ending : Option Fault) :
    Except Fault Value.Outcome :=
  match vs, ending with
  | v :: vs, ending => .ok (v, some (iterator h name vs ending))
  | [], some e => .error e
  | [], none => .ok (.undefined exhausted, some (iterator h name [] none))

/-- What the method behind an operation makes of what is not there. -/
def ofAbsent (complaint : String) (operation : String) (vs : List Value) : Except Fault Value :=
  let v : Value := .undefined complaint
  match operation, vs with
  | "len", [] => .ok (.whole 0)
  | "bool", [] => .ok (.bool false)
  | "iter", [] => .ok (iterator none v.forwardsName [] none)
  | "str", [] => .ok (text "")
  | "repr", [] => .ok (text v.shown)
  | "eq", [w] => .ok (.bool (w.kind = .undefined))
  | "ne", [w] => .ok (.bool (w.kind ≠ .undefined))
  | operation, vs =>
    if failing.contains operation then .error (.undefined complaint)
    else (general? v operation vs).getD (.error .unsupported)

/-- What a method makes that leaves its receiver as it is. -/
def asking (v : Value) (operation : String) (vs : List Value) : Except Fault Value :=
  let isNumber := v.number?.isSome || v.kind = .other "complex"
  match general? v operation vs with
  | some made => made
  | none =>
    if isNumber then ofNumber operation v vs
    else
      let found := (ofItems? v operation vs).or (ofRow? v operation vs)
      let made := found.getD (.error .unsupported)
      if v.isMarkup && operation = "getitem" then made.map Value.marked else made

/-- What a list, a dictionary or a set is from the beginning. -/
def initial (v : Value) (c : Call) : Except Fault Value.Outcome := do
  let only (empty : Value) (make : Value → Except Fault Value) : Except Fault Value.Outcome := do
    match ← ((Taking.row 0 1).arguments "" v.kind.name c).mapError .call with
    | [some w] => return (.null, some (← make w))
    | _ => return (.null, some empty)
  match v with
  | .list h _ => only (list h []) fun w => do return list h (← w.items)
  | .set h false _ => only (set h false []) fun w => do
    return set h false (Sets.begun w (← Sets.itemsOf w) [])
  | .dictionary h members =>
    return (.null, some (dictionary h (← Members.updated v.kind.name members c)))
  | _ => return (.null, none)

/-- Calls the method behind an operation. -/
def call (v : Value) (operation : String) (c : Call) : Except Fault Value.Outcome := do
  if operation = "init" then return ← initial v c
  match v with
  | .undefined complaint =>
    if failing.contains operation then throw (.undefined complaint)
  | _ => pure ()
  let vs ← (argumentsOf v operation c).mapError .call
  let changing :=
    match v, vs with
    | .iterator h name items ending, [] =>
      if operation = "next" then some (next h name items ending) else none
    | .dictionary _ members, vs | .reflection _ members, vs => ofMembers? v members operation vs
    | .list h items, vs => ofList? h items operation vs
    | v, [w] => ofSet? v operation w
    | _, _ => none
  match changing, v with
  | some made, _ => made
  | none, .undefined complaint => return (← ofAbsent complaint operation vs, none)
  | none, v => return (← asking v operation vs, none)

end Operation

end TagCloud.Template
