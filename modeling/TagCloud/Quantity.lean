import TagCloud.Magnitude

/-!
# Whole and real quantities

Sizes and weights can be given as whole numbers as well as magnitudes. As long as every number that
takes part is whole, the arithmetic is exact; as soon as one is not, the others become magnitudes
too, and a whole number beyond their range cannot. A quantity becomes a magnitude at the latest when
it is written, so there is one rounding where all numbers are whole.

Comparing never rounds: a whole number and a double are compared by what they are exactly.
-/

namespace TagCloud

/-- A whole number, or a magnitude. -/
inductive Quantity (R : Type) where
  | whole (n : Int)
  | real (x : R)
  deriving Repr

/-- What labels can be ordered by. -/
class Weighable (W : Type) where
  /-- Strictly below. -/
  lighter : W → W → Bool

instance {R : Type} [Magnitude R] : Weighable R where
  lighter := Magnitude.less

/-- Why a size cannot be written. -/
inductive SizeError where
  | tooLarge
  | placesTooMany
  | placesOutOfRange
  deriving Repr, DecidableEq

/-- The text shown for a size that cannot be written. -/
def SizeError.message : SizeError → String
  | .tooLarge => TooLarge.message ⟨⟩
  | .placesTooMany => "precision too big"
  | .placesOutOfRange => "Too many decimal digits in format string"

/-- The most decimal places that a number is written with. -/
def placesLimit : Nat := 2147483647

/-- The greatest number of decimal places that can be asked for. -/
def placesRange : Nat := 9223372036854775807

namespace Quantity

section

variable {R : Type} [Magnitude R]

/-- A quantity as a magnitude. -/
def magnitude : Quantity R → Except TooLarge R
  | whole n => Magnitude.ofInt n
  | real x => .ok x

/-- What an operation gives that is exact on whole numbers. -/
def combine (exact : Int → Int → Int) (rounded : R → R → R) :
    Quantity R → Quantity R → Except TooLarge (Quantity R)
  | whole a, whole b => .ok (whole (exact a b))
  | a, b => do
    let x ← a.magnitude
    let y ← b.magnitude
    return real (rounded x y)

/-- The sum of two quantities. -/
def add : Quantity R → Quantity R → Except TooLarge (Quantity R) :=
  combine (· + ·) (· + ·)

/-- The difference of two quantities. -/
def sub : Quantity R → Quantity R → Except TooLarge (Quantity R) :=
  combine (· - ·) (· - ·)

/-- The product of two quantities. -/
def mul : Quantity R → Quantity R → Except TooLarge (Quantity R) :=
  combine (· * ·) (· * ·)

/-- A quantity with a fixed number of decimal places. -/
def written (places : Nat) (q : Quantity R) : Except SizeError String :=
  if placesRange < places then .error .placesOutOfRange
  else
    match q.magnitude with
    | .error _ => .error .tooLarge
    | .ok x =>
      if placesLimit < places then .error .placesTooMany else .ok (Magnitude.fixed places x)

end

/-- Whether a whole number is strictly below `± num / den`. -/
def belowFraction (n : Int) (negative : Bool) (num den : Nat) : Bool :=
  n * Int.ofNat den < (if negative then -Int.ofNat num else Int.ofNat num)

/-- Whether a whole number is strictly below a datum. -/
def belowDatum (n : Int) : Number.Datum → Bool
  | .finite negative significand exponent =>
    let (num, den) := Number.dyadic significand exponent
    belowFraction n negative num den
  | .infinite negative => !negative
  | .nan => false

/-- A datum with its sign turned round. -/
def opposite : Number.Datum → Number.Datum
  | .finite negative significand exponent => .finite (!negative) significand exponent
  | .infinite negative => .infinite (!negative)
  | .nan => .nan

/-- Strictly below, by the exact values. -/
def less : Quantity Float → Quantity Float → Bool
  | whole a, whole b => a < b
  | whole a, real y => belowDatum a (.ofFloat y)
  | real x, whole b => belowDatum (-b) (opposite (.ofFloat x))
  | real x, real y => x < y

end Quantity

instance : Weighable (Quantity Float) where
  lighter := Quantity.less

end TagCloud
