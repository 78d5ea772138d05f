import TagCloud.Template.Fault
import TagCloud.Template.Value

/-!
# Comparing values

Any two values can be compared for being equal: numbers by what they are, whatever their kind, texts
and markup by their characters, collections of one kind item by item. Only numbers, texts, rows of
comparable items and sets have an order, that of sets being inclusion; asking for another one is a
fault.
-/

namespace TagCloud.Template

/-!
## One and the same value

Two values may be equal and yet not be one and the same. Of nothing, the truth values, the functions
and the types there is only one each, and so it is with small whole numbers, with the empty text and
with a text of a single plain character. What can be changed is the same if it has the same handle,
and other texts and numbers are if they come from the same place; everything else is made anew
whenever it is asked for.
-/

/-- Two things come from the same place, where `equal` tells whether they are equal. -/
def Origin.isSame (equal : Bool) : Origin → Origin → Bool
  | constant, constant | common, common => equal
  | part m, part n => m == n
  | _, _ => false

/-- Two handles are those of one value. -/
def Handle.isSame (h k : Handle) : Bool :=
  h.isSome && h == k

namespace Value

/-- A text of which there is only one: the empty one, or a single character of the first 256. -/
def isSingleText (s : String) : Bool :=
  match s.toList with
  | [] => true
  | [c] => c.toNat < 256
  | _ => false

/-- A whole number of which there is only one. -/
def isSingleWhole (n : Int) : Bool :=
  -5 ≤ n && n ≤ 256

/-- A value is the very same as another one. -/
def isSame : Value → Value → Bool
  | null, null | blocks, blocks | declined, declined | tuple [], tuple [] => true
  | bool a, bool b => a == b
  | whole m o, whole n p => m == n && (isSingleWhole m || o.isSame true p)
  | real x o, real y p => o.isSame (x.toBits == y.toBits) p
  | text s o, text t p => s == t && (isSingleText s || o.isSame true p)
  | bytes a, bytes b => a == b && a.length < 2
  | list h _, list k _ | dictionary h _, dictionary k _ | set h _ _, set k _ _
  | iterator h .., iterator k .. | cycler h .., cycler k .. | joiner h .., joiner k ..
  | space h _, space k _ => Handle.isSame h k
  | builtin f, builtin g => f == g
  | method (builtin f) m, method (builtin g) n => f == g && m == n && !makers.contains m
  | _, _ => false

/-- A text known by where another one comes from, if it is that text; an empty origin tells
nothing. -/
def keptText (s : String) (o : Origin) : Value → Value
  | text t .anew => if t == s then text s o else text t
  | v => v

/-- The only item of a row; what is joined with nothing else stays as it is. -/
def single : Value → Value
  | list _ [v] | tuple [v] | iterator _ _ [v] _ => v
  | _ => null

/-- What is made of a text by leaving it as it is, is that text. -/
def kept (receiver : Value) (made : Value) : Value :=
  match receiver with
  | text s o =>
    match made with
    | list h vs => list h (vs.map (keptText s o))
    | tuple vs => tuple (vs.map (keptText s o))
    | v => keptText s o v
  | _ => made

end Value

/-! ## Comparing values -/

namespace Value

/-- Two numbers are equal. -/
def sameNumber : Quantity Float → Quantity Float → Bool
  | .whole a, .whole b => a == b
  | .real x, .real y => x == y
  | a, b =>
    match a, b with
    | .real x, _ | _, .real x =>
      !x.isNaN && !Quantity.less a b && !Quantity.less b a
    | _, _ => false

/-- A number is equal to a complex one. -/
def sameComplex (x y : Float) (q : Quantity Float) : Bool :=
  y == 0 && sameNumber (.real x) q

/-- The items of a range. -/
def rangeItems (start step : Int) (size : Nat) : List Value :=
  (List.range size).map fun i => whole (start + step * Int.ofNat i)

/-- A value is equal to a number. -/
def sameAsNumber (q : Quantity Float) : Value → Bool
  | complex x y => sameComplex x y q
  | w => (w.number?.map (sameNumber q)).getD false

/-- The items of a value that is a set, or a view that is taken for one. -/
def setItems? : Value → Option (List Value)
  | set _ _ items => some items
  | view name _ members => if name = "dict_values" then none else some (viewed name members)
  | _ => none

/-- The value is a view of the keys or the members of a dictionary. -/
def isKeyView : Value → Bool
  | view name .. => name ≠ "dict_values"
  | _ => false

/-- Two methods are those of the very same value, or of the same class. -/
def isSameOwner (v w : Value) : Bool :=
  isSame v w || (v.origin?.isSome && v.origin? == w.origin?)

mutual

/-- Two values are equal. -/
def equal : Value → Value → Bool
  | null, w => match w with | null => true | _ => false
  | text s _, w | markup s, w => w.text? == some s
  | bytes a, w => match w with | bytes b => a == b | _ => false
  | list _ xs, w => match w with | list _ ys => equalItems xs ys | _ => false
  | tuple xs, w =>
    match w with
    | tuple ys => equalItems xs ys
    | group l ys => equalItems xs [l, list none ys]
    | _ => false
  | group k xs, w =>
    match w with
    | group l ys | tuple [l, list _ ys] => equal k l && equalItems xs ys
    | _ => false
  | set _ _ xs, w =>
    (w.setItems?.map fun ys => xs.length == ys.length && containedIn xs ys).getD false
  | view name _ members, w =>
    name != "dict_values"
      && (w.setItems?.map fun ys => members.length == ys.length && viewedIn name members ys).getD
        false
  | dictionary _ xs, w | reflection _ xs, w =>
    match w with
    | dictionary _ ys | reflection _ ys => xs.length == ys.length && membersIn xs ys
    | _ => false
  | range a b c, w =>
    match w with
    | range d e f =>
      let size := rangeSize a b c
      size == rangeSize d e f && (size == 0 || (a == d && (size == 1 || c == f)))
    | _ => false
  | undefined _, w => match w with | undefined _ => true | _ => false
  | applied a f xs, w =>
    match w with
    | applied b g ys => a == b && f == g && equalItems xs ys
    | _ => false
  | whole n _, w => sameAsNumber (.whole n) w
  | real x _, w => sameAsNumber (.real x) w
  | bool b, w => sameAsNumber (.whole (if b then 1 else 0)) w
  | complex x y, w =>
    match w with
    | complex a b => x == a && y == b
    | w => (w.number?.map (sameComplex x y)).getD false
  | bounds a b c, w =>
    match w with
    | bounds x y z => equal a x && equal b y && equal c z
    | _ => false
  | method owner name, w =>
    match w with
    | method other called => name == called && isSameOwner owner other
    | _ => false
  | v, w => isSame v w

/-- The items of two collections match one by one: one is the very same as the other, or equal. -/
def equalItems : List Value → List Value → Bool
  | [], ys => ys.isEmpty
  | x :: xs, ys =>
    match ys with
    | [] => false
    | y :: ys => (isSame x y || equal x y) && equalItems xs ys

/-- Each of some values matches one of others. -/
def containedIn : List Value → List Value → Bool
  | [], _ => true
  | x :: xs, ys => ys.any (fun y => isSame x y || equal x y) && containedIn xs ys

/-- Each of some members has a matching one among others. -/
def membersIn : List (Value × Value) → List (Value × Value) → Bool
  | [], _ => true
  | (key, v) :: rest, ys =>
    ys.any (fun (k, w) => (isSame key k || equal key k) && (isSame v w || equal v w))
      && membersIn rest ys

/-- What a view shows of some members is among some values. -/
def viewedIn (name : String) : List (Value × Value) → List Value → Bool
  | [], _ => true
  | (key, v) :: rest, ys =>
    ys.any (fun y =>
      if name = "dict_keys" then isSame key y || equal key y
      else
        match y with
        | tuple [k, w] => (isSame key k || equal key k) && (isSame v w || equal v w)
        | _ => false)
      && viewedIn name rest ys

end

/-- A value is the very same as another one, or equal to it. -/
def isLike (v w : Value) : Bool :=
  isSame v w || equal v w

/-- A value matches one of some others. -/
def isAmong (v : Value) (items : List Value) : Bool :=
  items.any v.isLike

/-- An order that two values are compared by. -/
inductive Relation where
  | below
  | atMost
  | above
  | atLeast
  deriving Repr, DecidableEq

/-- The sign of an order. -/
def Relation.sign : Relation → String
  | below => "<"
  | atMost => "<="
  | above => ">"
  | atLeast => ">="

/-- The order that holds between two values if the given one holds between them the other way
round. -/
def Relation.reversed : Relation → Relation
  | below => above
  | atMost => atLeast
  | above => below
  | atLeast => atMost

/-- Two numbers are in order. -/
def Relation.holdsBetween (r : Relation) (a b : Quantity Float) : Bool :=
  match r with
  | below => Quantity.less a b
  | atMost => Quantity.less a b || sameNumber a b
  | above => Quantity.less b a
  | atLeast => Quantity.less b a || sameNumber a b

/-- Two things are in order, if it is known how they compare. -/
def Relation.agrees (r : Relation) (o : Ordering) : Bool :=
  match r with
  | below => o == .lt
  | atMost => o != .gt
  | above => o == .gt
  | atLeast => o != .lt

/-- How two texts compare, from code point to code point. -/
def compareTexts (s t : String) : Ordering :=
  if s < t then .lt else if t < s then .gt else .eq

/-- Bytes as a text of so many characters. -/
def latinText (bs : List UInt8) : String :=
  String.ofList (bs.map fun b => Char.ofNat b.toNat)

/-- Two sets are in order, which is that of inclusion. -/
def setsInOrder (r : Relation) (xs ys : List Value) : Bool :=
  match r with
  | .below => xs.length < ys.length && containedIn xs ys
  | .atMost => containedIn xs ys
  | .above => ys.length < xs.length && containedIn ys xs
  | .atLeast => containedIn ys xs

/-- There is no order between two values. -/
def unordered (r : Relation) (v w : Value) : Fault :=
  .operator (.order r.sign v.kind.name w.kind.name)

mutual

/-- Two values are in order. -/
def inOrder (r : Relation) : Value → Value → Except Fault Bool
  | undefined complaint, _ => .error (.undefined complaint)
  | v, undefined complaint => let _ := v; .error (.undefined complaint)
  | reflection _ _, reflection h ms =>
    .error (unordered r.reversed (dictionary h ms) (dictionary h ms))
  | reflection h ms, w => .error (unordered r (dictionary h ms) w)
  | v, reflection h ms => .error (unordered r.reversed (dictionary h ms) v)
  | list _ xs, list _ ys => rowsInOrder r xs ys
  | tuple xs, tuple ys => rowsInOrder r xs ys
  | tuple xs, group l ys => rowsInOrder r xs [l, list none ys]
  | bytes a, bytes b => .ok (r.agrees (compareTexts (latinText a) (latinText b)))
  | group k xs, w =>
    match w with
    | group l ys => if isLike k l then rowsInOrder r xs ys else inOrder r k l
    | tuple [] => .ok (r.agrees .gt)
    | tuple (l :: rest) =>
      if !isLike k l then inOrder r k l
      else
        match rest with
        | [] => .ok (r.agrees .gt)
        | list _ ys :: more =>
          if equalItems xs ys then .ok (r.agrees (if more.isEmpty then .eq else .lt))
          else rowsInOrder r xs ys
        | undefined complaint :: _ => .error (.undefined complaint)
        | v :: _ => .error (unordered r (list none xs) v)
    | w => .error (unordered r (group k xs) w)
  | v, w =>
    match v.text?, w.text? with
    | some s, some t => .ok (r.agrees (compareTexts s t))
    | _, _ =>
      match v.number?, w.number? with
      | some a, some b => .ok (r.holdsBetween a b)
      | _, _ =>
        match v.setItems?, w.setItems? with
        | some xs, some ys => .ok (setsInOrder r xs ys)
        | _, _ => .error (unordered r v w)

/-- Two rows of values are in order: the first place where they differ decides, and the shorter one
comes first if there is none. -/
def rowsInOrder (r : Relation) : List Value → List Value → Except Fault Bool
  | [], ys => .ok (r.agrees (if ys.isEmpty then .eq else .lt))
  | _ :: _, [] => .ok (r.agrees .gt)
  | x :: xs, y :: ys => if isLike x y then rowsInOrder r xs ys else inOrder r x y

end

end Value

end TagCloud.Template
