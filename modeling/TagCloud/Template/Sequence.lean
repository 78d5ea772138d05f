import TagCloud.Template.Arrangement
import TagCloud.Text.Occurrence

/-!
# Values with items

Texts, lists, tuples, sets, dictionaries and ranges can be walked through, searched, and asked for
the item in a place or for the items between two places. What is not there counts as having no items
at all, but cannot be asked for one.

Places are counted from nothing upwards, and from the end when they are negative. A place that is
not there gives a value that is not there, while the bounds of a slice are drawn in to what there
is.
-/

namespace TagCloud.Template

namespace Value

/-- The characters of a text as texts of their own. -/
def characters (s : String) : List Value :=
  s.toList.map fun c => text c.toString

/-- A byte as a whole number. -/
def ofByte (b : UInt8) : Value :=
  whole (Int.ofNat b.toNat)

/-- The items of a value one after the other; those of a dictionary are its keys. -/
def items? : Value → Option (List Value)
  | text s _ | markup s => some (characters s)
  | bytes bs => some (bs.map ofByte)
  | list _ vs | tuple vs | set _ _ vs | iterator _ _ vs _ => some vs
  | group k vs => some [k, list none vs]
  | dictionary _ members | reflection _ members => some (members.map (·.1))
  | view name _ members => some (viewed name members)
  | range start stop step =>
    let size := rangeSize start stop step
    some (rangeItems start step (if Room.items < size then Room.ahead else size))
  | applied _ f arguments => some [applied true f arguments]
  | undefined _ => some []
  | _ => none

/-- The fault that meets what takes all items of a value. -/
def ending? : Value → Option Fault
  | iterator _ _ _ ending => ending
  | range start stop step =>
    let size := rangeSize start stop step
    if Room.greatest < size then some .amountRange
    else if Room.items < size then some .memory
    else none
  | _ => none

/-- A value whose items can be asked for. The blocks of a template can, though there are none. -/
def isWalkable : Value → Bool
  | blocks => true
  | v => v.items?.isSome

/-- What is wrong with asking for the items of a value that has none. -/
def itemless : Value → Fault
  | blocks => .noKey "0"
  | v => .notIterable v.kind.name

/-- The items of a value, which has to have some. -/
def items (v : Value) : Except Fault (List Value) :=
  match v.items?, v.ending? with
  | some _, some e => .error e
  | some vs, none => .ok vs
  | none, _ => .error v.itemless

/-- A value that has no length, whether it has items or not. -/
def isUnsized : Value → Bool
  | iterator .. | applied .. => true
  | _ => false

/-- The number of items of a value. -/
def length : Value → Except Fault Nat
  | range start stop step =>
    let size := rangeSize start stop step
    if Room.greatest < size then .error .amountRange else .ok size
  | text s _ | markup s => .ok s.length
  | bytes bs => .ok bs.length
  | v =>
    match v.isUnsized, v.items? with
    | false, some vs => .ok vs.length
    | _, _ => .error (.noLength v.kind.name)

/-! ## Keys -/

mutual

/-- The kind of what keeps a value from being a key. -/
def keyObstacle? : Value → Option String
  | list .. | group .. => some Kind.list.name
  | dictionary .. => some Kind.dictionary.name
  | reflection .. => some "mappingproxy"
  | set _ frozen _ => if frozen then none else some Kind.set.name
  | view name .. => if name = "dict_values" then none else some name
  | tuple vs | applied _ _ vs => keyObstacleAmong? vs
  | bounds .. => some "slice"
  | _ => none

/-- The kind of what keeps one of some values from being a key. -/
def keyObstacleAmong? : List Value → Option String
  | [] => none
  | v :: vs =>
    match keyObstacle? v with
    | some kind => some kind
    | none => keyObstacleAmong? vs

end

/-- A value that has to be fit for a key. -/
def key (v : Value) : Except Fault Value :=
  match v.keyObstacle? with
  | some kind => .error (.unhashable kind)
  | none => .ok v

/-- Gives a key a value, in its old place if it has one. -/
def putMember (key v : Value) : List (Value × Value) → List (Value × Value)
  | [] => [(key, v)]
  | (k, w) :: rest => if isLike k key then (k, v) :: rest else (k, w) :: putMember key v rest

/-- The dictionary of keys with their values, put one after the other. -/
def ofMembers (members : List (Value × Value)) : Except Fault Value := do
  let members ← members.foldlM (fun (d : List (Value × Value)) (k, v) => do
    return putMember (← k.key) v d) []
  return dictionary none members

/-- The value of a key. -/
def member? (key : Value) (members : List (Value × Value)) : Option Value :=
  (members.find? fun (k, _) => isLike k key).map (·.2)

/-! ## Membership -/

/-- A whole number is one of the numbers of a range. -/
def inRange (n start stop step : Int) : Bool :=
  let distance := n - start
  step != 0 && distance % step == 0 && 0 ≤ distance / step
    && distance / step < Int.ofNat (rangeSize start stop step)

/-- A value is among the items of another one. -/
def isIn (v collection : Value) : Except Fault Bool :=
  match collection with
  | text s _ | markup s =>
    match v.text? with
    | some part => .ok (Text.occursIn part.toList s.toList)
    | none => .error (.operator (.membershipInText v.kind.name))
  | bytes bs =>
    match v with
    | bytes part => .ok (Text.occursIn part bs)
    | v =>
      match v.whole? with
      | some n =>
        if n < 0 || 256 ≤ n then .error .byteRange else .ok (bs.contains (UInt8.ofNat n.toNat))
      | none => .error (.bytesWanted v.kind.name)
  | dictionary _ members | reflection _ members => do return (member? (← v.key) members).isSome
  | set _ _ vs =>
    match v with
    | set .. => .ok (isAmong v vs)
    | v => do return isAmong (← v.key) vs
  | view "dict_keys" _ members => do return (member? (← v.key) members).isSome
  | iterator _ _ vs ending =>
    match isAmong v vs, ending with
    | false, some e => .error e
    | found, _ => .ok found
  | range start stop step =>
    match v.whole? with
    | some n => .ok (inRange n start stop step)
    | none => .ok (isAmong v (collection.items?.getD []))
  | collection =>
    match collection.items? with
    | some vs => .ok (isAmong v vs)
    | none =>
      .error (if collection.isWalkable then collection.itemless
        else .operator (.membership collection.kind.name))

/-! ## Places -/

/-- The place in a row of some size that a number asks for. -/
def placeOf? (size : Nat) (n : Int) : Option Nat :=
  let n := if n < 0 then n + Int.ofNat size else n
  if 0 ≤ n && n < Int.ofNat size then some n.toNat else none

/-- The item of a row in the place that a number asks for. -/
def nth? {α : Type} (row : List α) (n : Int) : Option α :=
  (placeOf? row.length n).bind (row[·]?)

/-- The item of a value in a place, or under a key. -/
def item? (v place : Value) : Option Value :=
  match v with
  | dictionary _ members | reflection _ members =>
    if place.keyObstacle?.isSome then none else member? place members
  | builtin f =>
    let arguments :=
      match place with
      | tuple vs => vs
      | group k vs => [k, list none vs]
      | v => [v]
    if f.isGeneric then some (applied false f arguments) else none
  | v =>
    place.whole?.bind fun n =>
      match v with
      | text s _ => (nth? s.toList n).map fun c => text c.toString
      | markup s => (nth? s.toList n).map fun c => markup c.toString
      | bytes bs => (nth? bs n).map ofByte
      | list _ vs | tuple vs => nth? vs n
      | group k vs => nth? [k, list none vs] n
      | range start stop step =>
        (placeOf? (rangeSize start stop step) n).map fun i => whole (start + step * Int.ofNat i)
      | _ => none

/-- The greatest place that can be asked for. -/
def placeLimit : Int := 9223372036854775807

/-- What a fault calls the places of a value. -/
def placesName (v : Value) : String :=
  match v with
  | text _ _ | markup _ => "str"
  | bytes _ => "byte"
  | group .. => Kind.tuple.name
  | v => v.kind.name

/-- What a fault calls a value that has no item in a place. -/
def rowName (v : Value) : String :=
  match v with
  | text _ _ | markup _ => "string"
  | bytes _ => ""
  | group .. => Kind.tuple.name
  | range .. => "range object"
  | v => v.kind.name

/-- A value that has items in places. -/
def hasPlaces : Value → Bool
  | text _ _ | markup _ | bytes _ | list .. | tuple _ | group .. | range .. => true
  | _ => false

/-- There is nothing under a key. -/
def lacksKey (key : Value) : Fault :=
  if key.isOverlong then .overlong else .noKey key.shown

/-- The item of a value in a place or under a key, which has to be there. -/
def element (v place : Value) : Except Fault Value :=
  match v with
  | undefined complaint => .error (.undefined complaint)
  | dictionary _ members | reflection _ members => do
    match member? (← place.key) members with
    | some w => return w
    | none => throw place.lacksKey
  | blocks => .error place.lacksKey
  | applied .. => .error (.notGeneric v.shown)
  | v =>
    match v.hasPlaces, place.whole?, v.item? place with
    | true, none, _ => .error (.placeKind v.placesName place.kind.name)
    | true, some n, none =>
      if (n < -placeLimit - 1 || placeLimit < n) && v.kind ≠ .range then .error .placeRange
      else .error (.noIndex v.rowName)
    | _, _, some w => .ok w
    | false, _, none =>
      match v with
      | builtin f =>
        .error (if f.isType then .typeNotSubscriptable f.name else .notSubscriptable v.kind.name)
      | v => .error (.notSubscriptable v.kind.name)

/-! ## One item after the other -/

/-- The items of a value from the last to the first. -/
def backwards (v : Value) : Except Fault (List Value) :=
  match v with
  | set .. | iterator .. | cycler .. | applied .. => .error (.notReversible v.kind.name)
  | markup s => .ok (s.toList.reverse.map fun c => markup c.toString)
  | blocks => .error (.noLength v.kind.name)
  | range start stop step =>
    let size := rangeSize start stop step
    let last := start + step * (Int.ofNat size - 1)
    .ok (rangeItems last (-step) (if Room.items < size then Room.ahead else size))
  | v =>
    match v.items? with
    | some vs => .ok vs.reverse
    | none => .error (.notReversible v.kind.name)

/-- The name of what goes through the items of a value from the last to the first. -/
def backwardsName : Value → String
  | list .. => "list_reverseiterator"
  | dictionary .. | reflection .. | view "dict_keys" .. => "dict_reversekeyiterator"
  | view "dict_values" .. => "dict_reversevalueiterator"
  | view .. => "dict_reverseitemiterator"
  | range .. => "range_iterator"
  | _ => "reversed"

/-- The name of what goes through the items of a value. -/
def forwardsName (v : Value) : String :=
  match v with
  | text s _ | markup s =>
    if s.toList.all fun c => c.toNat < 128 then "str_ascii_iterator" else "str_iterator"
  | group .. => "tuple_iterator"
  | set .. => "set_iterator"
  | dictionary .. | reflection .. | view "dict_keys" .. => "dict_keyiterator"
  | view "dict_values" .. => "dict_valueiterator"
  | view .. => "dict_itemiterator"
  | applied .. => "generic_alias_iterator"
  | undefined _ => "Undefined.__iter__"
  | v => v.kind.name ++ "_iterator"

/-- What gives the items of a value one by one. -/
def walk (v : Value) : Except Fault Value :=
  match v with
  | iterator .. => .ok v
  | v =>
    match v.items? with
    | some vs => .ok (iterator none v.forwardsName vs v.ending?)
    | none => .error v.itemless

/-! ## Slices -/

/-- A bound of a slice drawn in to where a slice can begin and end. -/
def drawnIn (size low high : Int) (bound : Int) : Int :=
  let bound := if bound < 0 then bound + size else bound
  max low (min high bound)

/-- Where a slice of a row of some size begins and ends. -/
def sliceEnds (size : Nat) (start stop : Option Int) (step : Int) : Int × Int :=
  let size := Int.ofNat size
  if step < 0 then
    let draw := drawnIn size (-1) (size - 1)
    (((start.map draw).getD (size - 1)), ((stop.map draw).getD (-1)))
  else
    let draw := drawnIn size 0 size
    (((start.map draw).getD 0), ((stop.map draw).getD size))

/-- The items of a row between two bounds. -/
def sliced {α : Type} (row : List α) (start stop : Option Int) (step : Int) : List α :=
  let (first, last) := sliceEnds row.length start stop step
  (List.range (rangeSize first last step)).filterMap fun i =>
    row[(first + step * Int.ofNat i).toNat]?

/-- A bound of a slice, which is a whole number or nothing. -/
def bound : Value → Except Fault (Option Int)
  | null => .ok none
  | v =>
    match v.whole? with
    | some n => .ok (some n)
    | none => .error .sliceBounds

/-- The items of a value between two bounds. -/
def slice (v start stop step : Value) : Except Fault Value :=
  let cut (f : Option Int → Option Int → Int → Value) : Except Fault Value := do
    let step := (← step.bound).getD 1
    if step = 0 then .error .sliceStep
    else
      let start ← start.bound
      return f start (← stop.bound) step
  match v with
  | text s o =>
    cut fun a b c =>
      let made := text (String.ofList (sliced s.toList a b c))
      if c = 1 then kept (text s o) made else made
  | markup s => cut fun a b c => markup (String.ofList (sliced s.toList a b c))
  | bytes bs => cut fun a b c => bytes (sliced bs a b c)
  | list _ vs => cut fun a b c => list none (sliced vs a b c)
  | tuple vs => cut fun a b c => tuple (sliced vs a b c)
  | group k vs => cut fun a b c => tuple (sliced [k, list none vs] a b c)
  | range first last pace =>
    cut fun a b c =>
      let (low, high) := sliceEnds (rangeSize first last pace) a b c
      range (first + low * pace) (first + high * pace) (pace * c)
  | undefined complaint => .error (.undefined complaint)
  | dictionary .. | reflection .. => .error (.unhashable "slice")
  | applied .. => .error (.notGeneric v.shown)
  | builtin f =>
    if f.isGeneric then .ok (applied false f [bounds start stop step])
    else if f.isType then .error (.typeNotSubscriptable f.name)
    else .error (.notSubscriptable v.kind.name)
  | v => .error (.notSubscriptable v.kind.name)

/-- The items of a value between two bounds, or what stands for them if the value has no such
slices. -/
def sliceOrAbsent (v start stop step : Value) : Except Fault Value :=
  match v, v.slice start stop step with
  | _, .ok found => .ok found
  | undefined _, .error e => .error e
  | _, .error .sliceStep => .error .sliceStep
  | v, .error _ => .ok (absent v (bounds start stop step))

end Value

/-!
## Sorting

Values are sorted by their keys. The items at the front that are in order already, or in the
opposite order throughout, are taken as they are; each item behind them is put in its place by
halving. Items that compare equal stay as they came. Comparing may fail, and which of several
comparisons that fail is met depends on the order in which items are compared, so it is settled
here.
-/

namespace Sorting

variable {α : Type}

/-- The items that go on a run behind its last one, and those behind the run. A falling run goes on
with items before the last one. -/
def run (before : α → α → Except Fault Bool) (falling : Bool) (last : α) :
    List α → Except Fault (List α × List α)
  | [] => .ok ([], [])
  | x :: xs => do
    if (← before x last) = falling then
      let (more, rest) ← run before falling x xs
      return (x :: more, rest)
    else return ([], x :: xs)

/-- The place of an item in a sorted row between two places of it, behind its equals. -/
def place (before : α → α → Except Fault Bool) (x : α) (row : Array α) (low high : Nat) :
    Except Fault Nat :=
  if _ : low < high then
    let middle := low + (high - low) / 2
    match row[middle]? with
    | none => .ok low
    | some y =>
      match before x y with
      | .error e => .error e
      | .ok true => place before x row low middle
      | .ok false => place before x row (middle + 1) high
  else .ok low
termination_by high - low

/-- Items in their order. -/
def sorted (before : α → α → Except Fault Bool) (xs : List α) : Except Fault (List α) :=
  match xs with
  | [] => .ok []
  | [x] => .ok [x]
  | x :: y :: rest => do
    let falling ← before y x
    let (more, rest) ← run before falling y rest
    let front := x :: y :: more
    let row ← rest.foldlM (fun (row : Array α) x => do
      let n ← place before x row 0 row.size
      return row.insertIdx! n x) (if falling then front.reverse else front).toArray
    return row.toList

/-- Items in the order of their keys, or in the opposite one; equals stay as they came. -/
def byKeys (backwards : Bool) (xs : List (Value × α)) : Except Fault (List α) := do
  let before (x y : Value × α) := Value.inOrder .below x.1 y.1
  let row ← sorted before (if backwards then xs.reverse else xs)
  return (if backwards then row.reverse else row).map (·.2)

end Sorting

end TagCloud.Template
