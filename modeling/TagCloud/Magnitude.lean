import TagCloud.Number.Fixed

/-!
# The numbers of a cloud

Weights and sizes are computed in doubles. What the weights, the order of the labels and the texts
of the sizes rest on is less than that: sums, differences, products and quotients, a logarithm of
counts, a comparison, and a text with a fixed number of places. These are the operations of the
class below. The library runs at `Float`; its laws are about any numbers with lawful operations,
which is where the rounding of doubles is set aside.
-/

namespace TagCloud

/-- The numbers that weights and sizes are computed in. -/
class Magnitude (R : Type) extends Add R, Sub R, Mul R, Div R where
  /-- The number `0.5`. -/
  half : R
  /-- Strictly below. -/
  less : R → R → Bool
  /-- The natural logarithm. -/
  log : R → R
  /-- A whole number, unless it lies beyond the range of the numbers. -/
  ofInt? : Int → Option R
  /-- The fraction `num / den`. -/
  ofFraction : (num den : Nat) → R
  /-- The text with a fixed number of decimal places. -/
  fixed : (places : Nat) → R → String

instance : Magnitude Float where
  half := 0.5
  less x y := x < y
  log := Float.log
  ofInt? := Number.ofInt?
  ofFraction := Number.ofFraction false
  fixed := Number.fixed

/-- A whole number lies beyond the range of the numbers that sizes and weights are computed in. -/
structure TooLarge where
  deriving Repr, DecidableEq

/-- The text shown for a whole number that is too large. -/
def TooLarge.message (_ : TooLarge) : String :=
  "int too large to convert to float"

/-- A whole number among the magnitudes. -/
def Magnitude.ofInt {R : Type} [Magnitude R] (n : Int) : Except TooLarge R :=
  match Magnitude.ofInt? n with
  | some x => .ok x
  | none => .error ⟨⟩

end TagCloud
