import TagCloud.Template.Changes
import TagCloud.Template.CloudCall
import TagCloud.Template.Filter
import TagCloud.Template.Making
import TagCloud.Text.Normal

/-!
# Evaluating expressions

An expression is evaluated from left to right. What depends on a condition is evaluated only if the
condition asks for it: one of two values behind an `if`, the second part of an `and` or an `or`, and
what follows in a chain of comparisons. A cloud that is asked for in an expression may draw from the
source that all clouds of the template share, and a method may change a variable, so evaluating
hands both on. What has been changed meanwhile counts as it is when something is done with it.
-/

namespace TagCloud.Template

/-- How far the evaluation of a template has come: what clouds without a seed are shuffled by, and
what has been changed. -/
structure Progress where
  source : Source
  changes : Changes

/-- What evaluating does: it goes on from some progress, and may find that there is no value. -/
abbrev Evaluation (α : Type) := StateT Progress (Except TemplateError) α

/-- What an expression is evaluated in: the variables, the names of those that clouds are made from,
whether printed text is escaped, and the names of variables that the template asks for, in the order
in which it first does. -/
structure Scope where
  context : Context
  names : Names
  escapes : Bool
  asked : List String

namespace Scope

/-- The name of the variable that a name stands for: of those that the template asks for and that
have the same normal form, the last one. -/
def meant (s : Scope) (name : String) : String :=
  let form := Text.normalForm name.toList
  (s.asked.reverse.find? fun other => Text.normalForm other.toList = form).getD name

/-- The value of a variable. The template itself has a name of its own. -/
def value (s : Scope) (name : String) : Value :=
  if name = "self" then .blocks
  else (s.context.find? (s.meant name)).getD (.missing name)

end Scope

namespace Evaluation

/-- The outcome of what has nothing to do with clouds. -/
def of {α : Type} (outcome : Except Fault α) : Evaluation α :=
  match outcome with
  | .ok a => pure a
  | .error e => throw (.fault e)

/-- A value up to date. -/
def latest (v : Value) : Evaluation Value := do
  return (← get).changes.latest v

/-- The outcome of what may change values. -/
def act {α : Type} (action : Action α) : Evaluation α := do
  let progress ← get
  let (a, changes) ← of (action.run progress.changes)
  set { progress with changes }
  return a

/-- A value that is to be a part of another one, or an argument. -/
def embedded (v : Value) : Evaluation Value := do
  let progress ← get
  let (v, next) := v.labelled progress.changes.next
  set { progress with changes := { progress.changes with next } }
  return v

/-- Values up to date. -/
def latestRow (vs : List Value) : Evaluation (List Value) := do
  return vs.map (← get).changes.latest

end Evaluation

namespace Value

/-- Holds a value against another one. -/
def compare : Comparator → Value → Value → Except Fault Bool
  | .equal, v, w => .ok (equal v w)
  | .unequal, v, w => .ok (!equal v w)
  | .ordered r, v, w => inOrder r v w
  | .among, v, w => isIn v w
  | .notAmong, v, w => do return !(← isIn v w)

/-- Values joined as texts. If text is escaped and one of them is markup, so is the whole. -/
def joined (escapes : Bool) (vs : List Value) : Except Fault Value := do
  Filter.joinedBy escapes (text "") (← vs.mapM softened)

/-- The real number in a value that cannot be written down in an expression, by its name. -/
def nameOfReal? (x : Float) : Option String :=
  if x.isNaN then some "nan" else if x.isInf then some "inf" else none

mutual

/-- The first real number in a value that cannot be written down in an expression, by its name. -/
def unwritable? : Value → Option String
  | real x _ => nameOfReal? x
  | list _ vs | tuple vs | set _ _ vs => unwritableAmong? vs
  | dictionary _ members => unwritableMember? members
  | _ => none

/-- The first such number in some values. -/
def unwritableAmong? : List Value → Option String
  | [] => none
  | v :: vs => (unwritable? v).or (unwritableAmong? vs)

/-- The first such number in the members of a dictionary. -/
def unwritableMember? : List (Value × Value) → Option String
  | [] => none
  | (k, v) :: rest => ((unwritable? k).or (unwritable? v)).or (unwritableMember? rest)

end

/-- A value that is written down in an expression. -/
def writtenDown (v : Value) : Except Fault Value :=
  match v.unwritable? with
  | some name => .error (.noName name)
  | none => .ok v.asConstant

end Value

/-- The names that cannot be given to an argument. Beside one of them, the named arguments are
collected before the call, and of equal names the last one counts. -/
def reservedWords : List String :=
  [ "False", "None", "True", "and", "as", "assert", "async", "await", "break", "class", "continue",
    "def", "del", "elif", "else", "except", "finally", "for", "from", "global", "if", "import",
    "in", "is", "lambda", "nonlocal", "not", "or", "pass", "raise", "return", "try", "while",
    "with", "yield" ]

/-- Some argument has a reserved name. -/
def Argument.anyReserved (arguments : List Argument) : Bool :=
  arguments.any fun
    | .named name _ => reservedWords.contains name
    | _ => false

/-- The name that an argument gets: its normal form, unless the named arguments are collected. -/
def Argument.key (collected : Bool) (name : String) : String :=
  if collected then name else String.ofList (Text.normalForm name.toList)

namespace Call

/-- A call with one more argument by its place. -/
def withPlain (c : Call) (v : Value) : Call :=
  { c with row := c.row ++ [v] }

/-- A call with one more argument by its name. -/
def withNamed (c : Call) (name : String) (v : Value) : Call :=
  { c with named := Dictionary.put name v c.named }

/-- A call with a row that is spread out. -/
def withSpread (c : Call) (v : Value) : Except Fault Call :=
  if !v.isWalkable then .error (.call (.spread v.kind.name))
  else do return { c with row := c.row ++ (← v.items) }

/-- A call of a function with a dictionary that is spread out; `collected` arguments may be given
again. -/
def withSpreadNamed (function : String) (collected : Bool) (c : Call) (v : Value) :
    Except Fault Call :=
  match v with
  | .dictionary _ members | .reflection _ members =>
    members.foldlM (fun c (k, v) =>
      match k.text? with
      | none => .error (.call .keywordKind)
      | some name =>
        if !collected && (Dictionary.get? name c.named).isSome then
          .error (.call (.repeated function name))
        else .ok (c.withNamed name v)) c
  | .undefined complaint => .error (.undefined complaint)
  | v => .error (.call (.spreadNamed (if collected then "dict" else function) v.kind.name))

/-- A call with its arguments up to date. -/
def latest (changes : Changes) (c : Call) : Call :=
  ⟨c.row.map changes.latest, c.named.map fun (name, v) => (name, changes.latest v)⟩

/-- The names that every call may give and no function gets. -/
def innerNames : List String :=
  ["_loop_vars", "_block_vars"]

/-- A call as the function gets it. -/
def outer (c : Call) : Call :=
  { c with named := c.named.filter fun (name, _) => !innerNames.contains name }

end Call

/-- Variables with those that a call gives beside its arguments. -/
def Context.extended (context : Context) (v : Value) : Except Fault Context :=
  match v with
  | .dictionary _ members | .reflection _ members =>
    .ok (Dictionary.putAll
      (members.filterMap fun (k, w) => k.text?.map fun name => (name, w)) context)
  | v => if v.isEmpty then .ok context else .error (v.lacking "items")

/-- The parameters of the function that makes a cloud. -/
def cloudSignature : Signature :=
  ⟨Builtin.cloud.name, ["context"], [Signature.usually "directive" (.text "")]⟩

/-- Calls the function that makes a cloud. -/
def callCloud (s : Scope) (c : Call) : Evaluation Value := do
  let progress ← get
  let context := s.context.map fun (name, v) => (name, progress.changes.latest v)
  let context ← .of (Call.innerNames.foldlM (fun context name =>
    match Dictionary.get? name c.named with
    | some v => Context.extended context v
    | none => .ok context) context)
  match cloudSignature.bind c.outer with
  | .error e => throw (.fault (.call e))
  | .ok values =>
    let directive := values.head?.getD (.text "")
    let (html, shared) ← renderCall s.names context progress.source directive
    set { progress with source := shared }
    return .markup html

/-- The outcome of a method, with what it has changed noted. -/
def noted (outcome : Except Fault Value.Outcome) : Evaluation Value := do
  let (v, changed) ← .of outcome
  .act (Action.note changed.toList)
  return v

/-- The methods that take all items of their arguments. -/
def emptyingMethods : List String :=
  [ "difference", "difference_update", "extend", "from_bytes", "fromkeys", "intersection",
    "intersection_update", "isdisjoint", "issubset", "issuperset", "join", "symmetric_difference",
    "symmetric_difference_update", "union", "update" ]

/-- A call takes all items of its arguments. -/
def isEmptying : Value → Bool
  | .method _ name => emptyingMethods.contains name
  | .builtin f | .applied _ f _ =>
    [.dictionary, .space, .kind .list, .kind .tuple, .kind .set, .kind .frozenSet,
      .kind .bytes].contains f
  | _ => false

/-- What is called where the method behind calling is. -/
def Value.called : Value → Value
  | .method f "__call__" => f.called
  | f => f

/-- Calls the function that makes a cloud from outside of templates, where its first argument is
taken for the variables, which it is not. -/
def callCloudOutside (c : Call) : Evaluation Value :=
  let parameters := Signature.needed "context" :: cloudSignature.parameters
  match (Signature.mk Builtin.cloud.name [] parameters).bind c with
  | .error e => throw (.fault (.call e))
  | .ok (.undefined complaint :: _) => throw (.fault (.undefined complaint))
  | .ok vs => throw (.fault ((vs.headD .null).lacking "environment"))

/-- Calls a value with what does not have to be called itself. -/
def callPlainly (s : Scope) (f : Value) (c : Call) : Evaluation Value :=
  match f.called with
  | .undefined complaint => throw (.fault (.undefined complaint))
  | .builtin .cloud => if f matches .builtin .. then callCloud s c else callCloudOutside c.outer
  | .builtin f => .of (Value.callBuiltin f c.outer)
  | .applied _ f _ => .of (Value.callBuiltin f c.outer)
  | .joiner h separator used => do
    let signature : Signature := ⟨"Joiner.__call__", ["self"], []⟩
    let _ ← .of ((signature.bind c.outer).mapError .call)
    if used then return separator
    else noted (.ok (.text "", some (.joiner h separator true)))
  | .method owner name =>
    if (owner.instances?.bind (Value.holder? · name)).isSome then
      throw (.fault (.call (.notCallable f.called.kind.name)))
    else noted (Value.callOwned owner name c.outer)
  | f => throw (.fault (.call (.notCallable f.kind.name)))

/-- The key that a function makes of an item. -/
def callKey (s : Scope) (f v : Value) : Evaluation Value :=
  match f with
  | .builtin .cloud => callCloudOutside ⟨[v], []⟩
  | f => callPlainly s f ⟨[v], []⟩

/-- The list that a call sorts by keys, what makes them, and the call without the list. -/
def keySorting? (f : Value) (c : Call) : Option (Value × Value × Call) :=
  let keyed (v : Value) (c : Call) :=
    match Dictionary.get? "key" c.named with
    | none | some .null => none
    | some key => some (v, key, c)
  match f, c.row with
  | .method (.list h vs) "sort", _ => keyed (.list h vs) c
  | .method (.builtin (.kind .list)) "sort", .list h vs :: row => keyed (.list h vs) ⟨row, c.named⟩
  | _, _ => none

/-- Sorts the items of a list by the keys that a function makes of them. Meanwhile the list is
empty, and it has to stay so. -/
def sortBy (s : Scope) (h : Handle) (key : Value) (backwards : Bool) (vs : List Value) :
    Evaluation Value := do
  let become (vs : List Value) := noted (.ok (.null, some (.list h vs)))
  let _ ← become []
  let keys ← vs.mapM fun v => do callKey s (← Evaluation.latest key) v
  let row ← .of (Sorting.byKeys backwards (keys.zip vs))
  match ← Evaluation.latest (.list h []) with
  | .list _ [] => become row
  | _ => throw (.fault (.method .changedMeanwhile))

/-- Calls a value. Sorting calls what makes the keys for each item. -/
def callValue (s : Scope) (f : Value) (c : Call) : Evaluation Value := do
  match keySorting? f c.outer with
  | some (.list h vs, key, c) =>
    let arguments ← .of ((Row.sortTaking.arguments "list" "sort" c).mapError .call)
    sortBy s h key (← .of (Row.isBackwards arguments)) vs
  | _ =>
    let made ← callPlainly s f c
    if isEmptying f then .act (Action.note (c.row.map Value.emptied))
    return made

namespace Expression

/-- An expression that does nothing but lead to a part of a variable. -/
def isPath : Expression → Bool
  | .variable _ => true
  | .attribute e _ => e.isPath
  | .item e (.constant _) => e.isPath
  | _ => false

/-- Two expressions lead to the same part of the same variable. -/
def leadsTo : Expression → Expression → Bool
  | .variable m, .variable n => m == n
  | .attribute d m, .attribute e n => m == n && leadsTo d e
  | .item d (.constant v), .item e (.constant w) => v.equal w && leadsTo d e
  | _, _ => false

/-- A value that a path leads to is kept somewhere, and not made whenever it is asked for. -/
def keeps : Value → Bool
  | .text s _ => s.length ≠ 1
  | .undefined _ | .method .. => false
  | _ => true

end Expression

/-- The only argument of a test leads to the same part of a variable as what is tested. -/
def isSamePath (e : Expression) : List Argument → Bool
  | [.plain other] => e.isPath && e.leadsTo other
  | _ => false

mutual

/-- The value of an expression. -/
def evaluate (s : Scope) : Expression → Evaluation Value
  | .constant v => .of v.writtenDown
  | .variable name => Evaluation.latest (s.value name)
  | .tuple items => return .tuple (← evaluateRow s items)
  | .list items => return .list none (← evaluateRow s items)
  | .dictionary members => do .of (Value.ofMembers (← evaluateMembers s members))
  | .conditional test v otherwise line => do
    if !(← evaluate s test).isEmpty then evaluate s v
    else
      match ← evaluateOptional s otherwise with
      | some w => return w
      | none =>
        return .undefined ("the inline if-expression on line " ++ toString line
          ++ " evaluated to false and no else section was defined.")
  | .either a b => do
    let v ← evaluate s a
    if v.isEmpty then evaluate s b else return v
  | .both a b => do
    let v ← evaluate s a
    if v.isEmpty then return v else evaluate s b
  | .negation e => return .bool (← evaluate s e).isEmpty
  | .comparison e others => do evaluateComparisons s (← evaluate s e) others
  | .joined parts => do
    .of (Value.joined s.escapes (← Evaluation.latestRow (← evaluateRow s parts)))
  | .operation op a b => do
    let v ← evaluate s a
    let w ← evaluate s b
    .of ((← Evaluation.latest v).operate op w)
  | .signed negative e => do .of ((← evaluate s e).signed negative)
  | .attribute e name => do .of ((← evaluate s e).behindPoint name)
  | .item e place => do
    let v ← evaluate s e
    let place ← evaluate s place
    .of ((← Evaluation.latest v).inBrackets place)
  | .slice e start stop step => do
    let v ← evaluate s e
    let start ← evaluateOptional s start
    let stop ← evaluateOptional s stop
    let step ← evaluateOptional s step
    let v ← Evaluation.latest v
    .of (v.slice (start.getD .null) (stop.getD .null) (step.getD .null))
  | .bounds start stop step => do
    let start ← evaluateOptional s start
    let stop ← evaluateOptional s stop
    return .bounds (start.getD .null) (stop.getD .null)
      ((← evaluateOptional s step).getD .null)
  | .call f arguments => do
    let f ← evaluate s f
    let c ← evaluateArguments s "jinja2.runtime.Context.call" (Argument.anyReserved arguments)
      .empty arguments
    callValue s (← Evaluation.latest f) (c.latest (← get).changes)
  | .filtered e name arguments => do
    let v ← evaluate s e
    let c ← evaluateArguments s (Filter.functionName name) (Argument.anyReserved arguments)
      .empty arguments
    let v ← Evaluation.latest v
    if Filter.isKnown name then .act (Filter.apply s.escapes name v (c.latest (← get).changes))
    else throw (.fault (.noFilter name))
  | .tested e name arguments => do
    let v ← evaluate s e
    let c ← evaluateArguments s (Test.functionName name) (Argument.anyReserved arguments)
      .empty arguments
    let v ← Evaluation.latest v
    if Test.isKnown name then
      let c := c.latest (← get).changes
      let holds ← .of (Test.holds name v c)
      if name = "in" then .act (Action.note (c.row.map v.afterSearching))
      return .bool (holds || (name == "sameas" && isSamePath e arguments && Expression.keeps v))
    else throw (.fault (.noTest name))

/-- The values of expressions, one after the other. -/
def evaluateRow (s : Scope) : List Expression → Evaluation (List Value)
  | [] => return []
  | e :: es => do
    let v ← Evaluation.embedded (← evaluate s e)
    return v :: (← evaluateRow s es)

/-- The value of an expression that may be left out. -/
def evaluateOptional (s : Scope) : Option Expression → Evaluation (Option Value)
  | none => return none
  | some e => return some (← evaluate s e)

/-- The members of a dictionary. -/
def evaluateMembers (s : Scope) : List (Expression × Expression) → Evaluation (List (Value × Value))
  | [] => return []
  | (key, e) :: rest => do
    let k ← Evaluation.embedded (← evaluate s key)
    let v ← Evaluation.embedded (← evaluate s e)
    return (k, v) :: (← evaluateMembers s rest)

/-- Holds a value against others, as long as the comparisons hold. -/
def evaluateComparisons (s : Scope) (v : Value) :
    List (Comparator × Expression) → Evaluation Value
  | [] => return .bool true
  | (c, e) :: rest => do
    let w ← evaluate s e
    let v ← Evaluation.latest v
    let holds ← .of (Value.compare c v w)
    if c matches .among | .notAmong then .act (Action.note [v.afterSearching w])
    if holds then evaluateComparisons s w rest else return .bool false

/-- The arguments of a call behind those in `c`. -/
def evaluateArguments (s : Scope) (function : String) (collected : Bool) (c : Call) :
    List Argument → Evaluation Call
  | [] => return c
  | a :: rest => do
    evaluateArguments s function collected (← evaluateArgument s function collected c a) rest

/-- One more argument of a call. A name is put into its normal form unless the named arguments are
collected. -/
def evaluateArgument (s : Scope) (function : String) (collected : Bool) (c : Call) :
    Argument → Evaluation Call
  | .plain e => return c.withPlain (← Evaluation.embedded (← evaluate s e))
  | .spread e => do
    let v ← Evaluation.embedded (← evaluate s e)
    let c ← .of (c.withSpread v)
    .act (Action.note [v.emptied])
    return c
  | .named name e =>
    return c.withNamed (Argument.key collected name) (← Evaluation.embedded (← evaluate s e))
  | .spreadNamed e => do .of (c.withSpreadNamed function collected (← evaluate s e))

end

end TagCloud.Template
