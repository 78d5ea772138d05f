import TagCloud.Number.Complex
import TagCloud.Template.Arrangement
import TagCloud.Template.Expression
import TagCloud.Template.Pattern
import TagCloud.Template.Sequence
import TagCloud.Text.Quoted
import TagCloud.Text.Padding

/-!
# Arithmetic on values

Whole numbers are added, subtracted and multiplied exactly, and divided into the nearest double; as
soon as one operand is real, so is the result. Quotients without a fraction are taken downwards, and
the remainder goes with them, so it has the sign of the divisor.

Texts, lists and tuples can be joined and repeated, and a text on the left of a remainder is a
pattern to be filled in. Whatever is joined to markup is escaped first.
-/

namespace TagCloud.Template

/-- The sign of an operator. -/
def Operator.sign : Operator → String
  | add => "+"
  | sub => "-"
  | mul => "*"
  | div => "/"
  | floorDiv => "//"
  | mod => "%"
  | pow => "** or pow()"

namespace Arithmetic

/-- The remainder of a division toward zero. -/
def remainder (x y : Float) : Float :=
  match Number.Datum.ofFloat x, Number.Datum.ofFloat y with
  | .finite negative s e, .finite _ t f =>
    let low := min e f
    let rest := s * Nat.pow 2 (e - low).toNat % (t * Nat.pow 2 (f - low).toNat)
    let (num, den) := Number.dyadic rest low
    Number.ofFraction negative num den
  | .finite .., .infinite _ => x
  | _, _ => 0.0 / 0.0

/-- A zero with the sign of a number. -/
def zeroLike (x : Float) : Float :=
  Number.ofWord (x.toBits.toNat / Nat.pow 2 63 == 1) 0

/-- The quotient downwards and the remainder that goes with it. -/
def floorQuotient (x y : Float) : Float × Float :=
  let rest := remainder x y
  let crosses := rest != 0 && (y < 0) != (rest < 0)
  let quotient := (x - rest) / y
  let quotient := if crosses then quotient - 1 else quotient
  let rest := if rest == 0 then zeroLike y else if crosses then rest + y else rest
  if quotient == 0 then (zeroLike (x / y), rest)
  else
    let down := quotient.floor
    (if 0.5 < quotient - down then down + 1 else down, rest)

/-- A number as a double. -/
def real (q : Quantity Float) : Except Fault Float :=
  q.magnitude.mapError fun _ => .operator .floatRange

/-- A complex number as a value. -/
def ofComplex (z : Number.Complex) : Value :=
  .complex z.re z.im

/-- A power with complex numbers. -/
def complexPower (z w : Number.Complex) : Except Fault Value :=
  match z.power? w with
  | none => .error (.operator .complexZeroPower)
  | some made =>
    if made.isInfinite then .error (.operator .complexPowerRange) else .ok (ofComplex made)

/-- A power with real numbers. A negative number to the power of a fraction is complex. -/
def realPower (x y : Float) : Except Fault Value :=
  if x == 0 && y < 0 then .error (.operator .zeroPower)
  else if x < 0 && y.isFinite && y.floor != y && x.isFinite then
    complexPower (.ofReal x) (.ofReal y)
  else
    let z := Float.pow x y
    if z.isInf && x.isFinite && y.isFinite then .error (.operator .powerRange) else .ok (.real z)

/-- The greatest number of binary digits of what is multiplied out. -/
def digitLimit : Nat := 1000000000

/-- A whole number to the power of another one. The powers of one and of nothing do not grow. -/
def wholePower (m : Int) (n : Nat) : Except Fault Value :=
  if m.natAbs ≤ 1 then .ok (.whole (if n = 0 then 1 else if n % 2 = 0 then m * m else m))
  else if digitLimit < (m.natAbs.log2 + 1) * n then .error .memory
  else .ok (.whole (Int.pow m n))

/-- A number to the power of another one. -/
def power (a b : Quantity Float) : Except Fault Value :=
  match a, b with
  | .whole m, .whole n =>
    if n < 0 then do realPower (← real a) (← real b) else wholePower m n.toNat
  | a, b => do realPower (← real a) (← real b)

/-- A quotient. -/
def quotient (a b : Quantity Float) : Except Fault Value :=
  match a, b with
  | .whole m, .whole n =>
    if n = 0 then .error (.operator (.zeroDivisor "division by zero"))
    else
      let x := Number.ofFraction (decide (m < 0) != decide (n < 0)) m.natAbs n.natAbs
      if x.isInf then .error (.operator .quotientRange) else .ok (.real x)
  | a, b => do
    let x ← real a
    let y ← real b
    if y == 0 then .error (.operator (.zeroDivisor "float division by zero"))
    else .ok (.real (x / y))

/-- A quotient downwards, or the remainder that goes with it. -/
def quotientDown (rest : Bool) (a b : Quantity Float) : Except Fault Value :=
  match a, b with
  | .whole m, .whole n =>
    if n = 0 then
      .error (.operator (.zeroDivisor
        (if rest then "integer modulo by zero" else "integer division or modulo by zero")))
    else .ok (.whole (if rest then Int.fmod m n else Int.fdiv m n))
  | a, b => do
    let x ← real a
    let y ← real b
    if y == 0 then
      .error (.operator (.zeroDivisor
        (if rest then "float modulo" else "float floor division by zero")))
    else
      let (down, left) := floorQuotient x y
      .ok (.real (if rest then left else down))

/-- An operator between numbers. -/
def numbers (op : Operator) (a b : Quantity Float) : Except Fault Value :=
  let exact (f : Quantity Float → Quantity Float → Except TooLarge (Quantity Float)) :=
    ((f a b).map Value.ofNumber).mapError fun _ => Fault.operator .floatRange
  match op with
  | .add => exact Quantity.add
  | .sub => exact Quantity.sub
  | .mul => exact Quantity.mul
  | .div => quotient a b
  | .floorDiv => quotientDown false a b
  | .mod => quotientDown true a b
  | .pow => power a b

/-- A number as a complex one. -/
def complex? : Value → Option (Except Fault Number.Complex)
  | .complex x y => some (.ok ⟨x, y⟩)
  | v => v.number?.map fun q => (real q).map .ofReal

/-- An operator between numbers of which one is complex. -/
def complexes (op : Operator) (a b : Value) (z w : Number.Complex) : Except Fault Value :=
  match op with
  | .add => .ok (ofComplex (z.add w))
  | .sub => .ok (ofComplex (z.sub w))
  | .mul => .ok (ofComplex (z.mul w))
  | .div =>
    match z.div? w with
    | some made => .ok (ofComplex made)
    | none => .error (.operator (.zeroDivisor "complex division by zero"))
  | .pow => complexPower z w
  | .floorDiv | .mod => .error (.operator (.operands op.sign a.kind.name b.kind.name))

/-- A row repeated so many times. -/
def repeated {α : Type} (row : List α) (n : Int) : List α :=
  if row.isEmpty then [] else n.toNat.fold (fun _ _ made => row ++ made) []

/-- A text repeated so many times. -/
def repeatedText (s : String) (n : Int) : String :=
  if s.isEmpty then "" else Text.repeated s n.toNat

/-- A row that can be repeated: its size, the room for a repeated one, what is wrong with a size
that cannot be counted, and what makes the repeated one. -/
structure Repeatable where
  size : Nat
  room : Nat
  uncounted : Fault
  make : Int → Value

/-- The operands are of kinds that the operator is not for. -/
def refused (op : Operator) (a b : Value) : Fault :=
  .operator (.operands op.sign a.kind.name b.kind.name)

/-- The items of a tuple or of a group, which is one. -/
def tupleItems? : Value → Option (List Value)
  | .tuple vs => some vs
  | .group k vs => some [k, .list none vs]
  | _ => none

/-- Joins a value to another one. -/
def join (a b : Value) : Except Fault Value :=
  let concatenation (wanted : Kind) : Except Fault Value :=
    .error (.operator (.concatenation wanted.name b.kind.name))
  match a, b with
  | .text s o, .text t p =>
    .ok (if t.isEmpty then .text s o else if s.isEmpty then .text t p else .text (s ++ t))
  | .text s _, .markup t => .ok (.markup (Text.escaped s ++ t))
  | .markup s, .text t _ => .ok (.markup (s ++ Text.escaped t))
  | .markup s, .markup t => .ok (.markup (s ++ t))
  | .list _ vs, .list _ ws => .ok (.list none (vs ++ ws))
  | .bytes bs, .bytes cs => .ok (.bytes (bs ++ cs))
  | .text _ _, _ => concatenation .text
  | .list .., _ => concatenation .list
  | .bytes _, b => .error (.operator (.bytesConcatenation b.kind.name))
  | a, b =>
    match tupleItems? a, tupleItems? b with
    | some vs, some ws => .ok (.tuple (vs ++ ws))
    | some _, none => concatenation .tuple
    | none, _ =>
      if (a.isMarkup && b.claimsMarkup) || (b.isMarkup && a.claimsMarkup) then do
        return .markup ((← a.escaped) ++ (← b.escaped))
      else .error (refused .add a b)

/-- A row of items that can be repeated. -/
def repeatable? : Value → Option Repeatable
  | .text s o =>
    some ⟨s.length, Room.characters, .beyond "repeated string is too long", fun n =>
      if n = 1 then .text s o else .text (repeatedText s n)⟩
  | .markup s =>
    some ⟨s.length, Room.characters, .beyond "repeated string is too long", fun n =>
      .markup (repeatedText s n)⟩
  | .list _ vs => some ⟨vs.length, Room.items, .memory, fun n => .list none (repeated vs n)⟩
  | .bytes bs =>
    some ⟨bs.length, Room.items, .beyond "repeated bytes are too long", fun n =>
      .bytes (repeated bs n)⟩
  | v =>
    (tupleItems? v).map fun vs =>
      ⟨vs.length, Room.items, .memory, fun n => .tuple (repeated vs n)⟩

/-- Repeats a row. Markup asks for a whole number in words of its own. -/
def «repeat» (guarded : Bool) (row : Repeatable) (times : Value) : Except Fault Value :=
  match times.whole? with
  | none =>
    if guarded then .error (.notAnInteger times.kind.name)
    else .error (.operator (.repetition times.kind.name))
  | some n =>
    let greatest := Int.ofNat Room.greatest
    let size := row.size * n.toNat
    if greatest < n || n < -greatest - 1 then .error (.operator .timesRange)
    else if Room.greatest < size then .error row.uncounted
    else if row.room < size then .error .memory
    else .ok (row.make n)

/-- An operator between values that are not both numbers. -/
def others (op : Operator) (a b : Value) : Except Fault Value :=
  match op with
  | .add => join a b
  | .mul =>
    match repeatable? a, repeatable? b with
    | some row, some other =>
      if b.isMarkup && !a.isMarkup then «repeat» true other a else «repeat» a.isMarkup row b
    | some row, none => «repeat» a.isMarkup row b
    | none, some row => «repeat» b.isMarkup row a
    | none, none => .error (refused .mul a b)
  | .sub =>
    match a, b with
    | .set _ frozen vs, .set _ _ ws => .ok (.set none frozen (Sets.difference a vs b ws))
    | a, b =>
      if a.setItems?.isSome && b.setItems?.isSome || a.isKeyView || b.isKeyView then do
        let vs ← (← a.items).mapM Value.key
        let ws ← (← b.items).mapM Value.key
        return .set none false (Sets.remainder (Sets.source a) vs b ws)
      else .error (refused .sub a b)
  | op => .error (refused op a b)

end Arithmetic

namespace Value

/-- Applies an operator to two values. -/
def operate (op : Operator) (a b : Value) : Except Fault Value :=
  match op, a, b with
  | .mod, text pattern o, b => do
    let made := text (← fill .plain pattern b)
    let given :=
      match b with
      | tuple vs => vs
      | v => [v]
    return given.foldl (fun made v => kept v made) (kept (text pattern o) made)
  | .mod, markup pattern, b => (fill .guarded pattern b).map markup
  | .mod, bytes pattern, b => fillBytes pattern b
  | .mul, markup _, undefined _ => .error (.notAnInteger b.kind.name)
  | _, undefined complaint, _ => .error (.undefined complaint)
  | op, a, b =>
    match b with
    | undefined complaint =>
      if op = .sub && a.isKeyView then Arithmetic.others op a b
      else .error (.undefined complaint)
    | b =>
      match a.number?, b.number? with
      | some x, some y => Arithmetic.numbers op x y
      | _, _ =>
        match Arithmetic.complex? a, Arithmetic.complex? b with
        | some z, some w => do Arithmetic.complexes op a b (← z) (← w)
        | _, _ => Arithmetic.others op a b

/-- A value behind a sign. -/
def signed (negative : Bool) (v : Value) : Except Fault Value :=
  match v, v.number? with
  | undefined complaint, _ => .error (.undefined complaint)
  | complex x y, _ => .ok (if negative then complex (-x) (-y) else v)
  | _, some (.whole n) =>
    .ok (if negative then whole (-n) else if v.kind = .truth then whole n else v)
  | _, some (.real x) => .ok (if negative then real (-x) else v)
  | v, none => .error (.operator (.operand (if negative then "-" else "+") v.kind.name))

end Value

end TagCloud.Template
