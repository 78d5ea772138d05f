import TagCloud.Template.Making
import TagCloud.Template.Method.Bytes
import TagCloud.Template.Method.Number
import TagCloud.Template.Method.Operation
import TagCloud.Template.Method.Row

/-!
# Calling methods

The method of a name is looked up among those of the kind of its receiver. Lists and dictionaries
can be changed by their methods, so calling one gives two values: what the method makes, and the
receiver as it is from then on, if it may have changed.

The method of a class takes its receiver as the first argument, and so do the methods behind
operators. All classes have a method of their own that makes their values.
-/

namespace TagCloud.Template

namespace Value

/-- A row that is gone through again and again takes a step, or starts again. -/
def callCyclerMethod (h : Handle) (items : List Value) (place : Nat) (name : String) (c : Call) :
    Except Fault Outcome := do
  let signature : Signature := ⟨"Cycler." ++ name, ["self"], []⟩
  let _ ← (signature.bind c).mapError .call
  if name = "next" then
    return (items.getD place null, some (cycler h items ((place + 1) % items.length)))
  else return (null, some (cycler h items 0))

/-- Calls a method of the class of such rows: the receiver is a parameter like the others. -/
def callCyclerUnbound (name : String) (c : Call) : Except Fault Outcome := do
  let signature : Signature := ⟨"Cycler." ++ name, [], [Signature.needed "self"]⟩
  match ← (signature.bind c).mapError .call with
  | [cycler h items place] => callCyclerMethod h items place name .empty
  | vs => throw ((vs.headD null).lacking (if name = "next" then "current" else "pos"))

/-- The methods that may leave a text as it is, or in one piece. -/
def keepers : List String :=
  [ "center", "expandtabs", "format", "format_map", "ljust", "lstrip", "partition", "removeprefix",
    "removesuffix", "replace", "rjust", "rpartition", "rsplit", "rstrip", "split", "splitlines",
    "strip", "zfill" ]

/-- Calls a method of a text. What is made of the text, or of one argument alone, by leaving it as
it is, is that very text. -/
def callTextKeeping (s : String) (o : Origin) (name : String) (c : Call) : Except Fault Value := do
  let made ← callText s name c
  if !keepers.contains name then return made
  let given := if name = "format" then c.row ++ c.named.map (·.2) else []
  return given.foldl (fun made v => kept v made) (kept (text s o) made)

/-- Lets what gives its items one by one give the next one, or ends it. -/
def callGenerator (h : Handle) (name : String) (items : List Value) (ending : Option Fault)
    (called : String) (c : Call) : Except Fault Outcome := do
  let taking : Taking := if called = "send" then .one else .nothing
  match ← (taking.arguments name called c).mapError .call with
  | [some null] => Operation.next h name items ending
  | [_] => throw (.method .unstarted)
  | _ => return (null, some (iterator h name [] none))

/-- Calls a method that stands behind no operation. -/
def callPlainMethod (receiver : Value) (name : String) (c : Call) : Except Fault Outcome :=
  let asked (v : Except Fault Value) : Except Fault Outcome := v.map fun v => (v, none)
  let owner := receiver.kind.name
  match receiver with
  | text s o => asked (callTextKeeping s o name c)
  | markup s => asked (callMarkup s name c)
  | list h vs => do
    let (v, vs) ← Methods.call Row.listMethods owner name vs c
    return (v, some (list h vs))
  | dictionary h members => do
    let (v, members) ← Members.call owner h members name c
    return (v, some (dictionary h members))
  | reflection h members => asked ((Members.call owner h members name c).map (·.1))
  | tuple vs => asked (Methods.call Row.tupleMethods owner name vs c)
  | group k vs =>
    if name = "_asdict" then asked do
      let _ ← ((Signature.mk "_GroupTuple._asdict" ["self"] []).bind c).mapError .call
      return dictionary none [(text "grouper", k), (text "list", list none vs)]
    else asked (Methods.call Row.tupleMethods owner name [k, list none vs] c)
  | range start stop step =>
    asked (Methods.call Row.rangeMethods owner name
      (rangeItems start step (rangeSize start stop step)) c)
  | set h frozen vs => do
    let (v, vs) ← Sets.call owner frozen vs name c
    return (v, some (set h frozen vs))
  | view shape _ members =>
    asked ((Sets.call owner true (viewed shape members) name c).map (·.1))
  | bytes bs => asked (Methods.call Octets.methods owner name bs c)
  | real x _ => asked do
    let v ← Methods.call Numeric.realMethods owner name x c
    return if name = "conjugate" then receiver else v
  | complex x y => asked (Methods.call Numeric.complexMethods owner name ⟨x, y⟩ c)
  | cycler h vs place => callCyclerMethod h vs place name c
  | iterator h kind vs ending => callGenerator h kind vs ending name c
  | undefined complaint => .error (.undefined complaint)
  | receiver =>
    match receiver.whole? with
    | some n => asked do
      let v ← Methods.call Numeric.wholeMethods owner name n c
      return if name = "conjugate" && receiver.kind = .whole then receiver
        else if name = "from_bytes" && receiver.kind = .truth then bool !v.isEmpty
        else v
    | none => .error .unsupported

/-- A value is of a kind. Markup is text, and truth values are whole numbers. -/
def isOf (v : Value) (k : Kind) : Bool :=
  v.kind = k || (wider v.kind).contains k

/-- Makes a value of a class by the method that all classes make their values by. -/
def callNew (k : Kind) (c : Call) : Except Fault Outcome := do
  let k := Operation.definer k "new"
  match c.row with
  | [] =>
    let signature : Signature := ⟨"Markup.__new__", [], [Signature.needed "cls"]⟩
    if k = .markup then let _ ← (signature.bind c).mapError .call
    throw (.making (.newWithout k.name))
  | v :: row =>
    if k = .markup && v.instances? ≠ some .markup then throw (.making .newOfForeign)
    match v with
    | builtin f =>
      let other := kindOfType f
      if !f.isType then throw (.making (.newOfNoType k.name v.kind.name))
      if other ≠ k && !(wider other).contains k then
        throw (.making (.newOfOther k.name other.name))
      return (← callBuiltin f ⟨row, c.named⟩, none)
    | v => throw (.making (.newOfNoType k.name v.kind.name))

/-- Calls the method behind an operation. -/
def callOperation (receiver : Value) (operation : String) (c : Call) : Except Fault Outcome :=
  match receiver with
  | cycler h vs place =>
    if operation = "next" then callCyclerMethod h vs place operation c
    else Operation.call receiver operation c
  | receiver =>
    if operation = "new" then callNew receiver.kind c else Operation.call receiver operation c

/-- Calls a method. -/
def callMethod (receiver : Value) (name : String) (c : Call) : Except Fault Outcome :=
  match Operation.ofName? name with
  | some operation => callOperation receiver operation c
  | none => callPlainMethod receiver name c

/-- Calls the method behind an operation on the values of a class. -/
def callUnboundOperation (owner : Value) (k : Kind) (operation : String) (c : Call) :
    Except Fault Outcome :=
  let name := Operation.full operation
  let k := Operation.definer k operation
  let isPlain := Operation.isPlain k operation
  if operation = "new" then callNew k c
  else if Operation.ofTypes.contains operation then Operation.call owner operation c
  else
    match c.row with
    | [] =>
      .error (.call (if isPlain then .unbound k.name name else .noReceiver k.name name))
    | receiver :: row =>
      if receiver.isOf k then do
        if isPlain then
          let _ ← (Operation.argumentsFor k operation ⟨row, c.named⟩).mapError .call
        callMethod receiver name ⟨row, c.named⟩
      else
        .error (.call (if isPlain then .wrongReceiver k.name name receiver.kind.name
          else .foreignReceiver k.name name receiver.kind.name))

/-- Calls the method behind an operation on classes. -/
def callOnType (owner : Value) (k : Kind) (operation : String) (c : Call) :
    Except Fault Outcome := do
  match operation, ← (Operation.argumentsOf owner operation c).mapError .call with
  | "instancecheck", [v] => return (bool (v.isOf k), none)
  | "subclasscheck", [v] =>
    match v.instances? with
    | some other => return (bool (other = k || (wider other).contains k), none)
    | none => throw (.making .subclassOfNoType)
  | _, _ => Operation.call owner operation c

/-- Calls a method of a class, of which the first argument is the receiver. The class of markup has
the methods of the class of texts beside its own. The methods that are no more than functions take
the receiver as functions take their arguments. -/
def callUnbound (k : Kind) (name : String) (c : Call) : Except Fault Outcome :=
  let own := k = .markup && markupOwn.contains name
  let k :=
    if k = .markup && !own then .text
    else if k = .truth && !makers.contains name then .whole
    else k
  if own then (callMarkupUnbound name c).map fun v => (v, none)
  else if k = .other Builtin.cycler.name then callCyclerUnbound name c
  else if makers.contains name then
    match k with
    | .dictionary => callMethod (dictionary none []) name c
    | .whole => callMethod (whole 0) name c
    | .truth => callMethod (bool false) name c
    | .real => callMethod (real 0.0) name c
    | .bytes => callMethod (bytes []) name c
    | _ => callMethod (text "") name c
  else
    match c.row with
    | [] => .error (.call (.unbound k.name name))
    | receiver :: row =>
      if receiver.isOf k then callMethod receiver name ⟨row, c.named⟩
      else .error (.call (.wrongReceiver k.name name receiver.kind.name))

/-- Lists what a class goes back to. -/
def callAncestry (owner : Value) (k : Kind) (c : Call) : Except Fault Outcome := do
  if k = .type && c.row.isEmpty then throw (.call (.unbound k.name "mro"))
  let _ ← (Taking.nothing.arguments Kind.type.name "mro" c).mapError .call
  return (list none (owner :: (wider k).map typeOf), none)

/-- Calls a method of a value, which may be a class. -/
def callOwned (owner : Value) (name : String) (c : Call) : Except Fault Outcome :=
  match owner.instances?, Operation.ofName? name with
  | some k, some operation =>
    if (Operation.methodNames k).contains name then callUnboundOperation owner k operation c
    else callOnType owner k operation c
  | some k, none => if name = "mro" then callAncestry owner k c else callUnbound k name c
  | none, _ => callMethod owner name c

end Value

end TagCloud.Template
