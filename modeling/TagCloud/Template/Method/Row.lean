import TagCloud.Template.Arrangement
import TagCloud.Template.Method.Taking
import TagCloud.Template.Sequence

/-!
# The methods of lists, tuples and ranges

All of them are searched for a value. A list can be changed as well: what its methods make is a
value together with the items that the list has from then on.
-/

namespace TagCloud.Template

namespace Row

/-- A place of a row that an argument asks for. -/
def placeArgument (usual : Int) : Option Value → Except Fault Int
  | none => .ok usual
  | some v =>
    match v.whole? with
    | some n => .ok n
    | none => .error .placeBounds

/-- The place of a value in a row, from some place and up to some place. -/
def index (complaint : Value → String) (vs : List Value) :
    List (Option Value) → Except Fault Value
  | [some v, start, stop] => do
    let size := Int.ofNat vs.length
    let settled (n : Int) : Nat := (if n < 0 then n + size else n).toNat
    let start := settled (← placeArgument 0 start)
    let stop := settled (← placeArgument size stop)
    match ((vs.take stop).drop start).findIdx? v.equal with
    | some n => return .whole (Int.ofNat (start + n))
    | none => throw (.method (.notFound (complaint v)))
  | _ => .error .unsupported

/-- The number of items that are equal to a value. -/
def count (vs : List Value) (v : Value) : Value :=
  .whole (Int.ofNat (vs.countP v.equal))

/-- The methods of tuples. -/
def tupleMethods : Methods (List Value) Value :=
  [ Methods.single "count" fun vs v => .ok (count vs v),
    ("index", ⟨.row 1 3, index fun _ => "tuple.index(x): x not in tuple"⟩) ]

/-- The place of a value among the items of a range. -/
def indexInRange (vs : List Value) (v : Value) : Except Fault Value :=
  match vs.findIdx? v.equal with
  | some n => .ok (.whole (Int.ofNat n))
  | none =>
    .error (.method (.notFound
      (if v.whole?.isSome then v.shown ++ " is not in range"
        else "sequence.index(x): x not in sequence")))

/-- The methods of ranges. -/
def rangeMethods : Methods (List Value) Value :=
  [ Methods.single "count" fun vs v => .ok (count vs v), Methods.single "index" indexInRange ]

/-- What a method of a list makes: a value, and the items that the list has then. -/
abbrev Change := Value × List Value

/-- A method that changes a list and makes nothing else. -/
def change (f : List Value → Except Fault (List Value)) (vs : List Value) :
    Except Fault Change := do
  return (.null, ← f vs)

/-- A row with a value in a place that may lie beyond its ends. -/
def inserted (vs : List Value) (n : Int) (v : Value) : List Value :=
  let place := (if n < 0 then n + Int.ofNat vs.length else n).toNat
  vs.take place ++ v :: vs.drop place

/-- Takes the item in a place out of a row. -/
def popped (vs : List Value) (place : Option Value) : Except Fault Change := do
  let n ← (place.getD (.whole (-1))).amount
  if vs.isEmpty then throw (.method .emptyList)
  match Value.placeOf? vs.length n with
  | some i => return (vs.getD i .null, vs.eraseIdx i)
  | none => throw (.noIndex "pop")

/-- Takes the first item that is equal to a value out of a row. -/
def removed (vs : List Value) (v : Value) : Except Fault (List Value) :=
  match vs.findIdx? v.equal with
  | some i => .ok (vs.eraseIdx i)
  | none => .error (.method (.notFound "list.remove(x): x not in list"))

/-- How sorting takes its arguments: what makes the keys, and whether the order is the opposite
one. -/
def sortTaking : Taking := .named 0 0 ["key", "reverse"]

/-- Whether a call asks for the opposite order. -/
def isBackwards (arguments : List (Option Value)) : Except Fault Bool :=
  ((arguments.drop 1).head?.join.getD (.bool false)).switch

/-- A row in order. The items are compared by themselves. -/
def sorted (vs : List Value) (arguments : List (Option Value)) : Except Fault (List Value) := do
  let backwards ← isBackwards arguments
  match arguments.head?.join.getD .null with
  | .null => Sorting.byKeys backwards (vs.map fun v => (v, v))
  | key => if vs.isEmpty then return vs else throw (.call (.notCallable key.kind.name))

/-- A method that changes nothing. -/
def asking (m : Method (List Value) Value) : Method (List Value) Change :=
  ⟨m.taking, fun vs arguments => do return (← m.rule vs arguments, vs)⟩

/-- The methods of lists. -/
def listMethods : Methods (List Value) Change :=
  [ Methods.single "append" fun vs v => change (fun vs => .ok (vs ++ [v])) vs,
    Methods.bare "clear" (change fun _ => .ok []),
    Methods.plain "copy" fun vs => (.list none vs, vs),
    Methods.single "count" fun vs v => .ok (count vs v, vs),
    Methods.single "extend" fun vs v => change (fun vs => do return vs ++ (← v.items)) vs,
    ("index", asking ⟨.row 1 3, index fun v => v.shown ++ " is not in list"⟩),
    ("insert", ⟨.row 2 2, fun
      | vs, [some n, some v] => do
        let n ← n.amount
        return (.null, inserted vs n v)
      | _, _ => .error .unsupported⟩),
    ("pop", ⟨.row 0 1, fun vs arguments => popped vs arguments.head?.join⟩),
    Methods.single "remove" fun vs v => change (removed · v) vs,
    Methods.bare "reverse" (change fun vs => .ok vs.reverse),
    ("sort", ⟨sortTaking, fun vs arguments => change (sorted · arguments) vs⟩) ]

end Row

/-!
## The methods of sets

A set is compared and combined with the items of other values, which have to be fit for the items of
a set. Some methods change the set, so what a method makes is a value together with the items that
the set has from then on. The items of a set stand in an order of their own.
-/

namespace Sets

/-- What a method of a set makes: a value, and the items that the set has then. -/
abbrev Change := Value × List Value

/-- The items of a value, fit for the items of a set. -/
def itemsOf (v : Value) : Except Fault (List Value) := do
  (← v.items).mapM Value.key

/-- The methods with any number of arguments, of which each is combined with the set in turn. The
second rule is that for all arguments but the first. -/
def combining : List (String × Rule × Rule) :=
  [ ("union", union, union), ("intersection", intersection, intersection),
    ("difference", difference, remainder), ("update", union, union),
    ("intersection_update", intersection, intersection),
    ("difference_update", remainder, remainder) ]

/-- What a set has when it has been combined with the arguments of a call. -/
def combined (rules : Rule × Rule) (name : String) (vs : List Value) (c : Call) :
    Except Fault (List Value) := do
  if !c.named.isEmpty then throw (.call (.noKeywords name))
  let after (rule : Rule) (vs : List Value) (w : Value) : Except Fault (List Value) := do
    return rule (.set none false vs) vs w (← itemsOf w)
  match c.row with
  | [] => return Arrangement.stepped .set vs []
  | w :: rest => rest.foldlM (after rules.2) (← after rules.1 vs w)

/-- The methods that change a set. -/
def changing : List String :=
  ["update", "intersection_update", "difference_update"]

/-- A method that compares a set with the items of its argument. -/
def comparing (name : String) (f : List Value → List Value → Bool) :
    String × Method (Bool × List Value) Change :=
  Methods.single name fun (_, vs) v => do return (.bool (f vs (← itemsOf v)), vs)

/-- An item that a set is asked for. A set is asked for as one that cannot be changed. -/
def asked (v : Value) : Except Fault Value :=
  match v with
  | .set _ _ vs => .ok (.set none true vs)
  | v => v.key

/-- A set without an item. -/
def without (v : Value) (vs : List Value) : List Value :=
  vs.filter fun w => !v.equal w

/-- The methods that take their arguments as methods do. -/
def methods : Methods (Bool × List Value) Change :=
  [ comparing "isdisjoint" fun vs ws => !vs.any (·.isAmong ws),
    comparing "issubset" fun vs ws => vs.all (·.isAmong ws),
    comparing "issuperset" fun vs ws => ws.all (·.isAmong vs),
    Methods.single "symmetric_difference" fun (frozen, vs) v => do
      return (.set none frozen
        (symmetricDifference v (← itemsOf v) (.set none frozen vs) vs), vs),
    Methods.plain "copy" fun (frozen, vs) =>
      (.set none frozen (Arrangement.stepped .set vs []), vs),
    Methods.single "symmetric_difference_update" fun (_, vs) v => do
      return (.null, symmetricDifference (.set none false vs) vs v (← itemsOf v)),
    Methods.single "add" fun (_, vs) v => do
      return (.null, Arrangement.stepped .set vs [.put (← v.key)]),
    Methods.plain "clear" fun _ => (.null, []),
    Methods.single "discard" fun (_, vs) v => do return (.null, without (← asked v) vs),
    Methods.single "remove" fun (_, vs) v => do
      let w ← asked v
      if w.isAmong vs then return (.null, without w vs)
      else if v.isOverlong then throw .overlong
      else throw (.noKey v.shown),
    Methods.bare "pop" fun (_, vs) =>
      match vs with
      | v :: vs => .ok (v, vs)
      | [] => .error (.noKey (Text.quoted "pop from an empty set")) ]

/-- Calls a method of a set. -/
def call (owner : String) (frozen : Bool) (vs : List Value) (name : String) (c : Call) :
    Except Fault Change := do
  match combining.lookup name with
  | some f =>
    let ws ← combined f name vs c
    return if changing.contains name then (.null, ws) else (.set none frozen ws, vs)
  | none => Methods.call methods owner name (frozen, vs) c

end Sets

end TagCloud.Template
