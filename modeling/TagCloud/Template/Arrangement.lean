import TagCloud.Number.Binary64
import TagCloud.Template.Comparison

/-!
# The order of numbers in a set

The items of a set stand in the places of a table. A number has its first place by its remainder,
and where that place is taken it goes to one of the next, or is led on to places further away. The
table grows before it is three fifths full, and its numbers are then placed anew in the order they
have. The place of a number that is taken away is not free for others. A tuple of numbers and a set
of them have a word of their own, which is made from theirs.

So the order in which numbers come out of a set depends on the numbers and on the order in which
they went in. What is made of anything else has no first place that could be foreseen; a set with
such items keeps the order in which they went in.
-/

namespace TagCloud.Template

namespace Arrangement

/-- The prime number by which numbers are divided for their first places. -/
def modulus : Nat := Nat.pow 2 61 - 1

/-- A remainder with a sign as a word of 64 binary digits. The word of minus one is that of minus
two. -/
def word (negative : Bool) (n : Nat) : Nat :=
  let n := if negative && n = 1 then 2 else n
  if negative && n ≠ 0 then Nat.pow 2 64 - n else n

/-- The remainder of a fraction whose denominator is a power of two, of which the halves are whole
numbers as well by this modulus. -/
def remainder (numerator denominator : Nat) : Nat :=
  numerator % modulus * Nat.pow 2 (60 * denominator.log2 % 61) % modulus

/-- A number within a word. -/
def wrapped (n : Nat) : Nat :=
  n % Nat.pow 2 64

/-- A word as it counts, since the greatest one does not. -/
def counted (n instead : Nat) : Nat :=
  if n = Nat.pow 2 64 - 1 then instead else n

/-- The word of a whole number. -/
def ofWhole (n : Int) : Nat :=
  word (n < 0) (remainder n.natAbs 1)

/-- The word of a real number. -/
def ofReal? (x : Float) : Option Nat :=
  match Number.Datum.ofFloat x with
  | .finite negative significand exponent =>
    let (numerator, denominator) := Number.dyadic significand exponent
    some (word negative (remainder numerator denominator))
  | .infinite negative => some (word negative 314159)
  | .nan => none

/-- The word of a complex number. -/
def ofComplex? (x y : Float) : Option Nat := do
  return counted (wrapped ((← ofReal? x) + 1000003 * (← ofReal? y))) (Nat.pow 2 64 - 2)

/-- The bits of a word moved round to the left. -/
def rotated (n : Nat) : Nat :=
  (n * Nat.pow 2 31 + n / Nat.pow 2 33) % Nat.pow 2 64

/-- The word of a row with some words. -/
def ofRow (words : List Nat) : Nat :=
  let sum := words.foldl (fun sum word =>
    wrapped (rotated (wrapped (sum + word * 14029467366897019727)) * 11400714785074694791))
    2870177450012600261
  counted (wrapped (sum + Nat.xor words.length (Nat.xor 2870177450012600261 3527539))) 1546275796

/-- The bits of a word mixed. -/
def mixed (n : Nat) : Nat :=
  wrapped (Nat.xor (Nat.xor n 89869747) (wrapped (n * Nat.pow 2 16)) * 3644798167)

/-- The word of a set with some words, in whatever order they come. -/
def ofSet (words : List Nat) : Nat :=
  let n := words.foldl (fun n word => Nat.xor n (mixed word)) 0
  let n := Nat.xor n (wrapped ((words.length + 1) * 1927868237))
  let n := Nat.xor n (Nat.xor (n / Nat.pow 2 11) (n / Nat.pow 2 25))
  counted (wrapped (n * 69069 + 907133923)) 590923713

mutual

/-- The word of a value, if it can be foreseen. -/
def word? : Value → Option Nat
  | .whole n _ => some (ofWhole n)
  | .bool b => some (ofWhole (if b then 1 else 0))
  | .real x _ => ofReal? x
  | .complex x y => ofComplex? x y
  | .tuple vs => (words? vs).map ofRow
  | .set _ true vs => (words? vs).map ofSet
  | .range start stop step =>
    let size := Value.rangeSize start stop step
    if size < 2 then none else some (ofRow [ofWhole (Int.ofNat size), ofWhole start, ofWhole step])
  | _ => none

/-- The words of some values. -/
def words? : List Value → Option (List Nat)
  | [] => some []
  | v :: vs => do return (← word? v) :: (← words? vs)

end

/-- A place in the table of a set: nothing has stood there, something has, or an item stands there
with its word. -/
inductive Place where
  | free
  | left
  | taken (word : Nat) (item : Value)

/-- The table of a set: its places, and how many of them are not free. -/
structure Table where
  places : Array Place
  used : Nat

namespace Table

/-- A table of the least size beyond a number: a power of two, and at least eight. -/
def beyond (n : Nat) : Table :=
  ⟨Array.replicate (if n < 8 then 8 else Nat.pow 2 (n.log2 + 1)) .free, 0⟩

/-- The items of a table with their words. -/
def entries (t : Table) : List (Nat × Value) :=
  t.places.toList.filterMap fun
    | .taken word v => some (word, v)
    | _ => none

/-- The items of a table. -/
def items (t : Table) : List Value :=
  t.entries.map (·.2)

/-- The first free place, from the place `i` on: there, in the nine places behind it if the table
goes on so far, or where what is left of the word leads to. -/
def freePlace (t : Table) : (fuel : Nat) → (left i : Nat) → Nat
  | 0, _, i => i
  | fuel + 1, left, i =>
    let near := if i + 9 < t.places.size then List.range' i 10 else [i]
    match near.find? fun i => t.places[i]? matches some .free with
    | some j => j
    | none =>
      let left := left / 32
      freePlace t fuel left ((5 * i + 1 + left) % t.places.size)

/-- Puts an item into a table that has a free place. -/
def hold (t : Table) (entry : Nat × Value) : Table :=
  let i := t.freePlace (t.places.size + 64) entry.1 (entry.1 % t.places.size)
  ⟨t.places.setIfInBounds i (.taken entry.1 entry.2), t.used + 1⟩

/-- A table of a size beyond a number with some items. -/
def holding (n : Nat) (entries : List (Nat × Value)) : Table :=
  entries.foldl hold (beyond n)

/-- The places that are not free would be three fifths of a table and more. -/
def isCrowded (t : Table) (used : Nat) : Bool :=
  3 * (t.places.size - 1) ≤ 5 * used

/-- A table that has grown beyond four times the number of its items. -/
def grown (t : Table) : Table :=
  let entries := t.entries
  holding ((if 50000 < entries.length then 2 else 4) * entries.length) entries

end Table

/-- What is done with a set: an item is put into it or taken from it, room is made for a number of
items, or places that are left are given up. -/
inductive Step where
  | put (v : Value)
  | take (v : Value)
  | room (n : Nat)
  | tidy

/-- A table after a step. -/
def Table.after (t : Table) : Step → Table
  | .put v =>
    if v.isAmong t.items then t
    else
      let t := t.hold ((word? v).getD 0, v)
      if t.isCrowded t.used then t.grown else t
  | .take v =>
    { t with places := t.places.map fun place =>
        match place with
        | .taken _ w => if w.isLike v then .left else place
        | place => place }
  | .room n =>
    if t.isCrowded (t.used + n) then Table.holding (2 * (t.entries.length + n)) t.entries else t
  | .tidy => if (t.places.size - 1) / 4 < t.used - t.entries.length then t.grown else t

/-- The items of a set of which nothing can be foreseen after a step: they stay as they came. -/
def rowAfter (vs : List Value) : Step → List Value
  | .put v => if v.isAmong vs then vs else vs ++ [v]
  | .take v => vs.filter fun w => !w.isLike v
  | .room _ | .tidy => vs

/-- The rows in which an item stands somewhere among others. -/
def amid {α : Type} (x : α) : List α → List (List α)
  | [] => [[x]]
  | y :: ys => (x :: y :: ys) :: (amid x ys).map (y :: ·)

/-- All orders of some items, the one that they have first. -/
def orders {α : Type} : List α → List (List α)
  | [] => [[]]
  | x :: xs => (orders xs).flatMap (amid x)

/-- A table in which some items with their words have the order that they have. The items of a small
table may have been put into it in any order, and there is one that leads to theirs. -/
def settled (entries : List (Nat × Value)) : Table :=
  let count := entries.length
  if 5 * count < 21 then
    let fits (t : Table) : Bool :=
      (t.items.zip (entries.map (·.2))).all fun (v, w) => v.isLike w
    (((orders entries).map (Table.holding 0)).find? fits).getD (Table.holding 0 entries)
  else Table.holding (2 * count) entries

/-- What a set begins as: the items of another set, or those of a dictionary. -/
inductive Beginning where
  | set
  | dictionary
  deriving DecidableEq

/-- The items of a set that begins with others, after some steps. -/
def stepped (b : Beginning) (start : List Value) (steps : List Step) : List Value :=
  let added := steps.filterMap fun
    | .put v => some v
    | _ => none
  match words? start, words? added with
  | some words, some _ =>
    let entries := words.zip start
    let size := if 5 * words.length < 21 then 0 else 2 * words.length
    let t := if b = .set then settled entries else Table.holding size entries
    (steps.foldl Table.after t).items
  | _, _ => steps.foldl rowAfter start

/-- Different items in the order of a set that they are put into one by one. -/
def arranged (vs : List Value) : List Value :=
  stepped .set [] (vs.map .put)

end Arrangement

/-- Items without repetitions. Of equal items the first one counts. -/
def Value.distinct (vs : List Value) : List Value :=
  vs.foldl (fun seen v => if v.isAmong seen then seen else seen ++ [v]) []

/-- A set of the items of a list. -/
def Value.setOf (frozen : Bool) (vs : List Value) : Value :=
  .set none frozen (Arrangement.arranged vs)

/-!
## How sets are combined

A set is combined with another value item by item. Which items the outcome has does not depend on
the way it is done, but their order does: some outcomes begin as a copy of the set and change from
there, others are put together item by item, from the set or from the other value.
-/

namespace Sets

/-- A value is a set, whether it can be changed or not. -/
def isSet : Value → Bool
  | .set .. => true
  | _ => false

/-- A value is a set or a dictionary, of which the number of items is known at once. -/
def isCounted (v : Value) : Bool :=
  isSet v || v.kind = .dictionary

/-- A set after some steps, where it begins as a value with some items. -/
def begun (v : Value) (vs : List Value) (steps : List Arrangement.Step) : List Value :=
  match v with
  | .set .. => Arrangement.stepped .set vs steps
  | .dictionary .. => Arrangement.stepped .dictionary vs steps
  | _ => Arrangement.stepped .set [] (vs.map .put ++ steps)

/-- What a view is taken for when a set is made of it: that of the keys for the dictionary. -/
def source (v : Value) : Value :=
  match v with
  | .view "dict_keys" h members => .dictionary h members
  | v => v

/-- A way to combine the items of one value with those of another. -/
abbrev Rule := Value → List Value → Value → List Value → List Value

/-- The items of either one. -/
def union : Rule := fun v vs w ws =>
  begun v vs ((if isCounted w then [.room ws.length] else []) ++ ws.map .put)

/-- The items of both. Of two sets the smaller one is gone through. -/
def intersection : Rule := fun _ vs w ws =>
  Arrangement.arranged
    (if isSet w && vs.length < ws.length then vs.filter (·.isAmong ws)
    else ws.filter (·.isAmong vs))

/-- The items of the first one only, from which the others are taken. -/
def remainder : Rule := fun v vs _ ws =>
  begun v vs (ws.map .take ++ [.tidy])

/-- The items of the first one only. Where there are many others, the rest is put into a new set. -/
def difference : Rule := fun v vs w ws =>
  if isCounted w && vs.length / 4 ≤ ws.length then
    Arrangement.arranged (vs.filter (!·.isAmong ws))
  else remainder v vs w ws

/-- The items of one of them only, where the other one becomes a set first. -/
def symmetricDifference : Rule := fun v vs w ws =>
  let ws := if isSet w then ws else begun w ws []
  begun v vs (ws.map fun w => if w.isAmong vs then .take w else .put w)

end Sets

end TagCloud.Template
