/-!
# Doubles as words

Sizes and weights are doubles. What has to be exact about them, reading a numeral, taking over a
count and writing a size, is done on the 64-bit word and in natural numbers: a word is a sign, a
significand and an exponent of two, and the double nearest to a fraction comes from one rounded
quotient.

`ofFraction` picks the exponent first, so that the quotient has 53 binary digits or the exponent is
the least one, and then rounds once. A quotient that rounds up to the next power of two carries
into the exponent field by itself, because the fields of a word are in order of weight; a field
that runs over is the infinity.
-/

namespace TagCloud.Number

/-!
## Rounding a quotient

Everything that is rounded in this library is a quotient of natural numbers, and everything is
rounded the same way: to the nearest natural number, a half to the even neighbour. Reading a
numeral into a double and writing a double with a fixed number of places are both this one step.
-/

/-- The natural number nearest to `num / den`, a half going to the even neighbour. -/
def roundHalfEven (num den : Nat) : Nat :=
  let q := num / den
  let twice := 2 * (num % den)
  if twice < den then q
  else if den < twice then q + 1
  else if q % 2 = 0 then q else q + 1

/-! ## Binary numbers -/

/-- What a double holds: a finite number `± significand * 2 ^ exponent`, an infinity, no number. -/
inductive Datum where
  | finite (negative : Bool) (significand : Nat) (exponent : Int)
  | infinite (negative : Bool)
  | nan
  deriving Repr, DecidableEq

/-- The datum of a 64-bit word. -/
def Datum.ofWord (w : Nat) : Datum :=
  let negative := w / Nat.pow 2 63 % 2 == 1
  let field := w / Nat.pow 2 52 % Nat.pow 2 11
  let fraction := w % Nat.pow 2 52
  if field = 2047 then
    if fraction = 0 then .infinite negative else .nan
  else if field = 0 then .finite negative fraction (-1074)
  else .finite negative (Nat.pow 2 52 + fraction) (Int.ofNat field - 1075)

/-- The datum of a double. -/
def Datum.ofFloat (x : Float) : Datum :=
  .ofWord x.toBits.toNat

/-- `significand * 2 ^ exponent` as a numerator and a denominator. -/
def dyadic (significand : Nat) (exponent : Int) : Nat × Nat :=
  if 0 ≤ exponent then (significand * Nat.pow 2 exponent.toNat, 1)
  else (significand, Nat.pow 2 (-exponent).toNat)

/-- The word of the infinity without a sign. -/
def infinityWord : Nat := 2047 * Nat.pow 2 52

/-- The exponent of two at which `num / den` has 53 binary digits before the point, or the least
exponent there is when that is greater. -/
def scaleOf (num den : Nat) : Int :=
  let guess := Int.ofNat num.log2 - Int.ofNat den.log2 - 52
  let (n, d) :=
    if 0 ≤ guess then (num, den * Nat.pow 2 guess.toNat)
    else (num * Nat.pow 2 (-guess).toNat, den)
  max (-1074) (if n < d * Nat.pow 2 52 then guess - 1 else guess)

/-- The word of the double nearest to `num / den`, which is not negative. -/
def nearestWord (num den : Nat) : Nat :=
  if num = 0 then 0
  else
    let scale := scaleOf num den
    let significand :=
      if 0 ≤ scale then roundHalfEven num (den * Nat.pow 2 scale.toNat)
      else roundHalfEven (num * Nat.pow 2 (-scale).toNat) den
    min infinityWord ((scale + 1074).toNat * Nat.pow 2 52 + significand)

/-- The double of a word, with a sign. -/
def ofWord (negative : Bool) (w : Nat) : Float :=
  Float.ofBits (UInt64.ofNat (if negative then Nat.pow 2 63 + w else w))

/-- The double nearest to `num / den`. -/
def ofFraction (negative : Bool) (num den : Nat) : Float :=
  ofWord negative (nearestWord num den)

/-- The double nearest to `± mantissa * 10 ^ exponent`. Exponents far beyond the range of doubles
are settled by the size of the number alone, so that no power of ten is formed for them. -/
def ofDecimal (negative : Bool) (mantissa : Nat) (exponent : Int) : Float :=
  let magnitude := Int.ofNat (mantissa.log2 / 4) + exponent
  if mantissa = 0 || magnitude + Int.ofNat (mantissa.log2 / 4) < -400 then ofWord negative 0
  else if 400 < magnitude then ofWord negative infinityWord
  else if 0 ≤ exponent then ofFraction negative (mantissa * Nat.pow 10 exponent.toNat) 1
  else ofFraction negative mantissa (Nat.pow 10 (-exponent).toNat)

/-- The double nearest to a whole number; none when it rounds beyond the greatest double. -/
def ofInt? (n : Int) : Option Float :=
  let w := nearestWord n.natAbs 1
  if w < infinityWord then some (ofWord (n < 0) w) else none

end TagCloud.Number
