import TagCloud.Number.Real

/-!
# Complex numbers

A negative number to the power of a fraction is a complex number, which is a pair of doubles.
Complex numbers are added, multiplied and divided part by part in doubles. A power with a whole
exponent up to a hundred is a product; any other one is found by the length and the angle of the
number.

In text a complex number is a real one, or one with the letter of the imaginary unit behind it, or
both behind each other, and there may be brackets around it.
-/

namespace TagCloud.Number

/-- A complex number. -/
structure Complex where
  re : Float
  im : Float
  deriving Repr

namespace Complex

/-- A real number. -/
def ofReal (x : Float) : Complex := ⟨x, 0.0⟩

/-- One. -/
def one : Complex := ofReal 1.0

/-- A complex number that is zero. -/
def isZero (z : Complex) : Bool :=
  z.re == 0 && z.im == 0

/-- A complex number of which a part is infinite. -/
def isInfinite (z : Complex) : Bool :=
  z.re.isInf || z.im.isInf

/-- The sum. -/
def add (z w : Complex) : Complex :=
  ⟨z.re + w.re, z.im + w.im⟩

/-- The difference. -/
def sub (z w : Complex) : Complex :=
  ⟨z.re - w.re, z.im - w.im⟩

/-- The product. -/
def mul (z w : Complex) : Complex :=
  ⟨z.re * w.re - z.im * w.im, z.re * w.im + z.im * w.re⟩

/-- The quotient, unless the divisor is zero. Both are divided by the greater part of the divisor
first. -/
def div? (z w : Complex) : Option Complex :=
  if w.isZero then none
  else if w.im.abs ≤ w.re.abs then
    let ratio := w.im / w.re
    let below := w.re + w.im * ratio
    some ⟨(z.re + z.im * ratio) / below, (z.im - z.re * ratio) / below⟩
  else if w.re.abs ≤ w.im.abs then
    let ratio := w.re / w.im
    let below := w.re * ratio + w.im
    some ⟨(z.re * ratio + z.im) / below, (z.im * ratio - z.re) / below⟩
  else some ⟨0.0 / 0.0, 0.0 / 0.0⟩

/-- The distance from zero. -/
def length (z : Complex) : Float :=
  if z.im == 0 then z.re.abs
  else if z.re == 0 then z.im.abs
  else
    let great := max z.re.abs z.im.abs
    let x := z.re / great
    let y := z.im / great
    great * Float.sqrt (x * x + y * y)

/-- The number times a product of squares: the power with the exponent whose binary digits, from the
lowest one on, are left in `n`. -/
def powerFrom (fuel n : Nat) (made square : Complex) : Complex :=
  match fuel with
  | 0 => made
  | fuel + 1 =>
    if n = 0 then made
    else
      powerFrom fuel (n / 2) (if n % 2 = 1 then made.mul square else made) (square.mul square)

/-- The power with a natural exponent. -/
def powerNat (z : Complex) (n : Nat) : Complex :=
  powerFrom n n one z

/-- The power with any exponent of a number that is not zero, unless its angle is infinite. -/
def powerByAngle? (z w : Complex) : Option Complex :=
  let length := z.length
  let angle := Float.atan2 z.im z.re
  let turned := angle * w.re
  let stretched := Float.pow length w.re
  let (stretched, turned) :=
    if w.im != 0 then
      (stretched / Float.exp (angle * w.im), turned + w.im * Float.log length)
    else (stretched, turned)
  if turned.isInf then none else some ⟨stretched * turned.cos, stretched * turned.sin⟩

/-- The power, unless the number cannot be raised to it. -/
def power? (z w : Complex) : Option Complex :=
  if w.im == 0 && w.re == w.re.floor && w.re.abs ≤ 100 then
    let n := w.re.abs.toUInt64.toNat
    if 0 < w.re then some (z.powerNat n) else one.div? (z.powerNat n)
  else if z.isZero then if w.im != 0 || w.re < 0 then none else some ⟨0.0, 0.0⟩
  else z.powerByAngle? w

/-- The real number at the front of a text, as long as it can be, and what follows it. -/
def realAt? (cs : List Char) : Option (Float × List Char) :=
  (List.range cs.length).reverse.findSome? fun n =>
    let front := cs.take (n + 1)
    if front.any isPadding then none
    else (readReal? (String.ofList front)).map fun x => (x, cs.drop (n + 1))

/-- What follows the letter of the imaginary unit. -/
def behindUnit? : List Char → Option (List Char)
  | c :: cs => if c = 'j' || c = 'J' then some cs else none
  | [] => none

/-- The complex number at the front of a text, and what follows it. The unit may stand without a
number. -/
def complexAt? (cs : List Char) : Option (Complex × List Char) :=
  let signed (cs : List Char) : Float × List Char :=
    let (negative, rest) := signOf cs
    (if negative then -1.0 else 1.0, rest)
  match realAt? cs with
  | none =>
    let (y, rest) := signed cs
    (behindUnit? rest).map fun rest => (⟨0.0, y⟩, rest)
  | some (x, rest) =>
    if rest.head? = some '+' || rest.head? = some '-' then
      let (y, rest) := (realAt? rest).getD (signed rest)
      (behindUnit? rest).map fun rest => (⟨x, y⟩, rest)
    else
      match behindUnit? rest with
      | some rest => some (⟨0.0, x⟩, rest)
      | none => some (ofReal x, rest)

/-- The complex number that a text without low lines spells. -/
def read? (cs : List Char) : Option Complex :=
  let blanks (cs : List Char) := cs.dropWhile isPadding
  let cs := blanks cs
  let inside := if cs.head? = some '(' then blanks cs.tail else cs
  match complexAt? inside with
  | none => none
  | some (z, rest) =>
    match cs.head?, blanks rest with
    | some '(', ')' :: rest => if (blanks rest).isEmpty then some z else none
    | some '(', _ => none
    | _, rest => if rest.isEmpty then some z else none

/-- A text without its low lines, each of which has to stand between two digits. -/
def withoutLowLines? (digitBefore : Bool) : List Char → Option (List Char)
  | [] => some []
  | ['_'] => none
  | '_' :: c :: cs =>
    if digitBefore && Text.isDigit c then (withoutLowLines? true cs).map (c :: ·) else none
  | c :: cs => (withoutLowLines? (Text.isDigit c) cs).map (c :: ·)

end Complex

end TagCloud.Number
