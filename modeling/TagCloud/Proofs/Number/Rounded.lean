import Mathlib
import TagCloud.Magnitude

/-!
# Numbers that are rounded once

Doubles stand for real numbers, and what they compute is the exact result, rounded to the nearest of
them. Little of that is needed to say what a cloud does with its numbers, and nothing of it depends
on which real numbers there are to choose from: rounding keeps the order, it leaves alone what needs
no rounding, and a difference of two different numbers is not rounded to zero. The class below holds
these laws for any numbers that sizes and weights can be computed in.

The laws are silent beyond the range of the numbers: they speak of operands that stand for a real
number, and of results that lie no farther from zero than some number does. They say nothing about
the logarithm, of which not even doubles promise anything.
-/

namespace TagCloud

/-- Numbers that stand for real numbers, whose differences and quotients are rounded once. -/
class Rounded (R : Type) [Magnitude R] where
  /-- The number stands for a real number. -/
  IsFinite : R → Prop
  /-- The real number that it stands for. -/
  value : R → ℝ
  /-- What an exact result is rounded to. -/
  nearest : ℝ → ℝ
  nearest_mono : Monotone nearest
  nearest_value {x : R} : IsFinite x → nearest (value x) = value x
  nearest_sub_pos {x y : R} :
    IsFinite x → IsFinite y → value x < value y → 0 < nearest (value y - value x)
  less_iff {x y : R} :
    IsFinite x → IsFinite y → (Magnitude.less x y = true ↔ value x < value y)
  sub {x y z : R} : IsFinite x → IsFinite y → IsFinite z → |value x - value y| ≤ value z →
    IsFinite (x - y) ∧ value (x - y) = nearest (value x - value y)
  div {x y z : R} : IsFinite x → IsFinite y → value y ≠ 0 → IsFinite z →
    |value x / value y| ≤ value z → IsFinite (x / y) ∧ value (x / y) = nearest (value x / value y)
  finite_half : IsFinite (Magnitude.half : R)
  value_half : value (Magnitude.half : R) = 1 / 2
  ofInt {n : Nat} {x : R} : Magnitude.ofInt? n = some x → IsFinite x ∧ value x = nearest n
  exists_zero : ∃ x : R, IsFinite x ∧ value x = 0
  exists_one : ∃ x : R, IsFinite x ∧ value x = 1

namespace Rounded

variable {R : Type} [Magnitude R] [Rounded R]

variable (R) in
theorem nearest_zero : nearest R 0 = 0 := by
  obtain ⟨x, hx, hzero⟩ := exists_zero (R := R)
  rw [← hzero, nearest_value hx]

variable (R) in
theorem nearest_one : nearest R 1 = 1 := by
  obtain ⟨x, hx, hone⟩ := exists_one (R := R)
  rw [← hone, nearest_value hx]

variable (R) in
theorem nearest_nonneg {r : ℝ} (h : 0 ≤ r) : 0 ≤ nearest R r := by
  rw [← nearest_zero R]
  exact nearest_mono h

variable (R) in
theorem nearest_le_one {r : ℝ} (h : r ≤ 1) : nearest R r ≤ 1 := by
  rw [← nearest_one R]
  exact nearest_mono h

/-- A whole number from one upwards is not rounded below one. -/
theorem one_le_value_of_ofInt {n : Nat} {x : R} (hn : 1 ≤ n) (hx : Magnitude.ofInt? n = some x) :
    1 ≤ value x := by
  rw [(ofInt hx).2, ← nearest_one R]
  exact nearest_mono (by exact_mod_cast hn)

/-- A quotient between zero and one is in range. -/
theorem div_of_le {x y : R} (hx : IsFinite x) (hy : IsFinite y) (hpos : 0 < value y)
    (hzero : 0 ≤ value x) (hle : value x ≤ value y) :
    IsFinite (x / y) ∧ value (x / y) = nearest R (value x / value y) := by
  obtain ⟨z, hz, hone⟩ := exists_one (R := R)
  refine div hx hy (ne_of_gt hpos) hz ?_
  rw [hone, abs_of_nonneg (div_nonneg hzero hpos.le)]
  exact (div_le_one hpos).2 hle

end Rounded

/-- Numbers without rounding, in which every whole number can be held. -/
class Exact (R : Type) [Magnitude R] extends Rounded R where
  finite (x : R) : IsFinite x
  nearest_eq (r : ℝ) : nearest r = r
  exists_ofInt (n : Nat) : ∃ x : R, Magnitude.ofInt? n = some x

end TagCloud
