import TagCloud.Template.Method.Taking

/-!
# The methods of dictionaries

A dictionary is asked for its keys, its values, and the value of a key, and it can be changed: what
its methods make is a value together with the members that the dictionary has from then on. Members
come from another dictionary, or from the items of a value, each of which has to be a pair.
-/

namespace TagCloud.Template

/-- The members of a dictionary. -/
abbrev Members := List (Value × Value)

namespace Members

/-- The pair that an item in some place is. -/
def pair (place : Nat) (v : Value) : Except Fault (Value × Value) :=
  if !v.isWalkable then .error (.method (.pairKind place))
  else do
    match ← v.items with
    | [k, w] => return (k, w)
    | vs => throw (.method (.pairLength place vs.length))

/-- Puts members one after the other; their keys have to be fit for keys. -/
def putAll (members more : Members) : Except Fault Members :=
  more.foldlM (fun (d : Members) (k, v) => do return Value.putMember (← k.key) v d) members

/-- Puts the pairs that items are, the first of them standing in some place. -/
def putPairs (place : Nat) (members : Members) : List Value → Except Fault Members
  | [] => .ok members
  | v :: vs => do
    putPairs (place + 1) (← putAll members [← pair place v]) vs

/-- Puts what an argument has. -/
def merged (members : Members) (v : Value) : Except Fault Members :=
  match v with
  | .dictionary _ more | .reflection _ more => putAll members more
  | .undefined complaint => .error (.undefined complaint)
  | v => do putPairs 0 members (← v.items)

/-- Puts what the arguments of a call have, those with names last. -/
def updated (function : String) (members : Members) (c : Call) : Except Fault Members := do
  let members ←
    match c.row with
    | [] => pure members
    | [v] => merged members v
    | vs => throw (.call (.atMost function 1 vs.length))
  putAll members (c.named.map fun (name, v) => (.text name, v))

/-- A dictionary with the items of a value as its keys. -/
def ofKeys : List (Option Value) → Except Fault Value
  | [some keys, usual] => do
    let ks ← keys.items
    return .dictionary none (← putAll [] (ks.map fun k => (k, usual.getD .null)))
  | _ => .error .unsupported

/-- What a method of a dictionary makes: a value, and the members that the dictionary has then. -/
abbrev Change := Value × Members

/-- The value of a key, or the usual one. -/
def find (members : Members) : List (Option Value) → Except Fault Value
  | [some k, usual] => do return (Value.member? (← k.key) members).getD (usual.getD .null)
  | _ => .error .unsupported

/-- The value of a key, which is put if it is not there. -/
def settled (members : Members) : List (Option Value) → Except Fault Change
  | [some k, usual] => do
    let k ← k.key
    match Value.member? k members with
    | some v => return (v, members)
    | none =>
      let v := usual.getD .null
      return (v, members ++ [(k, v)])
  | _ => .error .unsupported

/-- The value of a key, with which it is taken out. -/
def popped (members : Members) : List (Option Value) → Except Fault Change
  | [some k, usual] => do
    let missing : Except Fault Change :=
      match usual with
      | some v => .ok (v, members)
      | none => if k.isOverlong then .error .overlong else .error (.noKey k.shown)
    if members.isEmpty then missing
    else
      let k ← k.key
      match Value.member? k members with
      | some v => return (v, members.filter fun (l, _) => !l.isLike k)
      | none => missing
  | _ => .error .unsupported

/-- The last member, which is taken out. -/
def lastPopped (members : Members) : Except Fault Change :=
  match members.getLast? with
  | some (k, v) => .ok (.tuple [k, v], members.dropLast)
  | none => .error (.noKey (Text.quoted "popitem(): dictionary is empty"))

/-- The methods of dictionaries that take their arguments as methods do. -/
def methods : Methods Members Change :=
  [ Methods.plain "clear" fun _ => (.null, []),
    Methods.plain "copy" fun members => (.dictionary none members, members),
    ("fromkeys", ⟨.row 1 2, fun members vs => do return (← ofKeys vs, members)⟩),
    ("get", ⟨.row 1 2, fun members vs => do return (← find members vs, members)⟩),
    ("pop", ⟨.row 1 2, popped⟩), Methods.bare "popitem" lastPopped,
    ("setdefault", ⟨.row 1 2, settled⟩) ]

/-- The methods that show what a dictionary has, with the kinds of what they make. -/
def views : List (String × String) :=
  [("items", "dict_items"), ("keys", "dict_keys"), ("values", "dict_values")]

/-- Calls a method of the dictionary of a handle, which may have another owner. -/
def call (owner : String) (handle : Handle) (members : Members) (name : String) (c : Call) :
    Except Fault Change := do
  match views.lookup name with
  | some view => do
    let _ ← (Taking.nothing.arguments owner name c).mapError .call
    return (.view view handle members, members)
  | none =>
    if name = "update" then return (.null, ← updated "update" members c)
    else Methods.call methods owner name members c

end Members

end TagCloud.Template
