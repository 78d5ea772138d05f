import TagCloud.Number.Fixed
import TagCloud.Number.Shortest

/-!
# Ways to write a real number

A real number can be written with a fixed number of places, with an exponent, in the shorter of the
two ways, or in the fewest digits that read back. All but the last round the exact binary value
once. The number of significant digits, and where the point stands among them, settle the rest: the
digits come first, and zeros fill what is left on either side of them.
-/

namespace TagCloud.Number

/-- The ways to write a real number. -/
inductive Form where
  | fixed
  | exponent
  | general
  | shortest
  deriving Repr, DecidableEq

/-- What is asked for beside the form: the number of places or of digits, that a point stays without
digits behind it, that a whole number has a digit behind the point, and that there is no negative
zero. -/
structure Layout where
  form : Form
  precision : Nat
  keepsPoint : Bool
  showsReal : Bool
  dropsSign : Bool
  deriving Repr, DecidableEq

/-- Digits, the first of them behind the point when `point` is nothing. -/
structure Significant where
  digits : List Char
  point : Int
  deriving Repr, DecidableEq

/-- `num / den` rounded to so many significant digits, without the zeros at the end. -/
def significant (count num den : Nat) : Significant :=
  if num = 0 then ⟨['0'], 1⟩
  else
    let top := decimalExponent num den
    let scale := top - Int.ofNat count + 1
    let rounded :=
      if 0 ≤ scale then roundHalfEven num (den * Nat.pow 10 scale.toNat)
      else roundHalfEven (num * Nat.pow 10 (-scale).toNat) den
    let carried := rounded == Nat.pow 10 count
    ⟨significantDigits rounded, top + (if carried then 2 else 1)⟩

/-- The digits of a decimal. -/
def Decimal.significant (x : Decimal) : Significant :=
  ⟨significantDigits x.digits,
    x.exponent + Int.ofNat (Nat.toDigits 10 x.digits).length⟩

/-- An exponent with its sign and at least two digits. -/
def exponentText (n : Int) : List Char :=
  'e' :: (if n < 0 then '-' else '+') :: padded 2 n.natAbs

/-- Digits with so many places behind the point. -/
def Significant.placed (s : Significant) (places : Nat) (keepsPoint : Bool) : List Char :=
  let whole := s.digits.take s.point.toNat
  let front := whole ++ List.replicate (s.point.toNat - whole.length) '0'
  let zeros := min places (-s.point).toNat
  let back := List.replicate zeros '0' ++ s.digits.drop s.point.toNat
  let back := back ++ List.replicate (places - back.length) '0'
  (if front.isEmpty then ['0'] else front)
    ++ (if back.isEmpty && !keepsPoint then [] else '.' :: back)

/-- Digits with a point behind the first one, so many places and an exponent. -/
def Significant.scientific (s : Significant) (places : Nat) (keepsPoint : Bool) : List Char :=
  Significant.placed ⟨s.digits, 1⟩ places keepsPoint ++ exponentText (s.point - 1)

/-- Digits in the form that is shorter, where `limit` is the greatest place of the point without an
exponent and `count` the number of digits to fill up to. -/
def Significant.shorter (s : Significant) (l : Layout) (limit : Int) (count : Nat) : List Char :=
  if s.point ≤ -4 || limit < s.point then s.scientific (count - 1) l.keepsPoint
  else
    let places := (Int.ofNat count - s.point).toNat
    s.placed (if l.showsReal then max 1 places else places) l.keepsPoint

/-- A finite number without its sign. -/
def Layout.unsigned (l : Layout) (significand : Nat) (exponent : Int) : List Char :=
  let (num, den) := dyadic significand exponent
  match l.form with
  | .fixed =>
    let text := fixedPlaces l.precision num den
    if l.keepsPoint && l.precision = 0 then text ++ ['.'] else text
  | .exponent =>
    (significant (min l.precision exactPlaces + 1) num den).scientific l.precision l.keepsPoint
  | .general =>
    let count := max 1 l.precision
    let s := significant (min count exactPlaces) num den
    s.shorter l (Int.ofNat count - if l.showsReal then 1 else 0)
      (if l.keepsPoint then count else s.digits.length)
  | .shortest =>
    let s :=
      if significand = 0 then ⟨['0'], 1⟩ else (shortestDecimal significand exponent).significant
    s.shorter l 16 s.digits.length

/-- A number as it is to be written. -/
def Layout.written (l : Layout) (x : Float) : List Char :=
  match Datum.ofFloat x with
  | .finite negative significand exponent =>
    let text := l.unsigned significand exponent
    let vanishes := l.dropsSign && !text.any fun c => '1' ≤ c && c ≤ '9'
    if negative && !vanishes then '-' :: text else text
  | .infinite negative => if negative then ['-', 'i', 'n', 'f'] else ['i', 'n', 'f']
  | .nan => ['n', 'a', 'n']

end TagCloud.Number
