import TagCloud.Number.Binary64

/-!
# Shortest decimal text

Where a double is shown in full it is written with the fewest digits that read back as the same
double, and of the texts with that many digits, with the one nearest to it.

The numbers that read back as a given double form an interval around it, ends included when its
significand is even. For one digit, two digits and so on, the two neighbours of the double on the
decimal grid of that many digits are tried in exact arithmetic; the first grid with a neighbour in
the interval wins. Seventeen digits always suffice. The number is positional from 0.0001 up to
sixteen digits before the point and has an exponent of at least two digits otherwise.
-/

namespace TagCloud.Number

/-- A decimal `digits * 10 ^ exponent`. -/
structure Decimal where
  digits : Nat
  exponent : Int
  deriving Repr, DecidableEq

/-- `a / b ≤ c / d`, or strictly below when the ends are excluded. -/
def withinEnd (closed : Bool) (a b c d : Nat) : Bool :=
  if closed then a * d ≤ c * b else a * d < c * b

/-- The greatest `e` with `10 ^ e ≤ num / den`. -/
def decimalExponent (num den : Nat) : Int :=
  let atMost (e : Int) : Bool :=
    if 0 ≤ e then den * Nat.pow 10 e.toNat ≤ num else den ≤ num * Nat.pow 10 (-e).toNat
  let guess := Int.fdiv ((Int.ofNat num.log2 - Int.ofNat den.log2 - 1) * 30103) 100000
  if atMost (guess + 2) then guess + 2
  else if atMost (guess + 1) then guess + 1
  else if atMost guess then guess
  else guess - 1

/-- `num / den` on the grid of steps `10 ^ e`: the number of whole steps below it, and twice what
is left over compared with a step. -/
def onGrid (num den : Nat) (e : Int) : Nat × Ordering :=
  let (n, d) :=
    if 0 ≤ e then (num, den * Nat.pow 10 e.toNat) else (num * Nat.pow 10 (-e).toNat, den)
  (n / d, compare (2 * (n % d)) d)

/-- The first decimal with `count`, `count + 1`, … digits, at most `fuel` of them, that lies between
`low` and `high`. -/
def firstDecimal (num den : Nat) (low high : Nat × Nat) (closed : Bool) (top : Int) :
    (fuel count : Nat) → Decimal
  | 0, count => ⟨(onGrid num den (top - count)).1, top - count⟩
  | fuel + 1, count =>
    let e := top - Int.ofNat count + 1
    let (below, half) := onGrid num den e
    let inside (k : Nat) : Bool :=
      let (n, d) := if 0 ≤ e then (k * Nat.pow 10 e.toNat, 1) else (k, Nat.pow 10 (-e).toNat)
      withinEnd closed low.1 low.2 n d && withinEnd closed n d high.1 high.2
    match inside below, inside (below + 1) with
    | true, true =>
      let up := half == .gt || (half == .eq && below % 2 == 1)
      ⟨if up then below + 1 else below, e⟩
    | true, false => ⟨below, e⟩
    | false, true => ⟨below + 1, e⟩
    | false, false => firstDecimal num den low high closed top fuel (count + 1)

/-- The shortest decimal that reads back as `significand * 2 ^ exponent`. -/
def shortestDecimal (significand : Nat) (exponent : Int) : Decimal :=
  let value := dyadic significand exponent
  let high := dyadic (2 * significand + 1) (exponent - 1)
  let low :=
    if significand = Nat.pow 2 52 && -1074 < exponent then
      dyadic (4 * significand - 1) (exponent - 2)
    else dyadic (2 * significand - 1) (exponent - 1)
  let top := decimalExponent value.1 value.2
  firstDecimal value.1 value.2 low high (significand % 2 == 0) top 17 1

/-- The digits of a number without the zeros at its end. -/
def significantDigits (n : Nat) : List Char :=
  ((Nat.toDigits 10 n).reverse.dropWhile (· == '0')).reverse

/-- A decimal as text: positional when its leading digit stands between the fourth place after the
point and the sixteenth before it. -/
def Decimal.text (x : Decimal) : List Char :=
  let digits := significantDigits x.digits
  let lead := x.exponent + Int.ofNat (Nat.toDigits 10 x.digits).length - 1
  if lead < -4 || 16 ≤ lead then
    let mark := if lead < 0 then '-' else '+'
    let size := Nat.toDigits 10 lead.natAbs
    let tail := if digits.length ≤ 1 then [] else '.' :: digits.drop 1
    digits.take 1 ++ tail ++ 'e' :: mark :: (List.replicate (2 - size.length) '0' ++ size)
  else if lead < 0 then
    '0' :: '.' :: (List.replicate (lead.natAbs - 1) '0' ++ digits)
  else
    let whole := lead.toNat + 1
    let front := digits.take whole ++ List.replicate (whole - digits.length) '0'
    let back := digits.drop whole
    front ++ '.' :: (if back.isEmpty then ['0'] else back)

/-- A datum in the fewest digits that read back. -/
def Datum.shortest : Datum → String
  | .finite negative significand exponent =>
    let text :=
      if significand = 0 then ['0', '.', '0'] else (shortestDecimal significand exponent).text
    String.ofList (if negative then '-' :: text else text)
  | .infinite negative => if negative then "-inf" else "inf"
  | .nan => "nan"

/-- A double in the fewest digits that read back. -/
def shortest (x : Float) : String :=
  (Datum.ofFloat x).shortest

end TagCloud.Number
