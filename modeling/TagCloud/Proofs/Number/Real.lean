import TagCloud.Proofs.Number.Nearest
import TagCloud.Proofs.Number.Rounded

/-!
# Numbers without rounding

The real numbers are the numbers that doubles stand for, and so they are numbers that a cloud can be
computed in. Nothing is rounded in them and every whole number can be held, and their logarithm is
the true one. What a cloud does with them is what it would do if only its doubles were exact.
-/

namespace TagCloud

/-- A real number, as a number that sizes and weights are computed in. -/
structure Unrounded where
  value : ℝ

noncomputable instance : Magnitude Unrounded where
  add x y := ⟨x.value + y.value⟩
  sub x y := ⟨x.value - y.value⟩
  mul x y := ⟨x.value * y.value⟩
  div x y := ⟨x.value / y.value⟩
  half := ⟨(1 : ℕ) / (2 : ℕ)⟩
  less x y := decide (x.value < y.value)
  log x := ⟨Real.log x.value⟩
  ofInt? n := some ⟨n⟩
  ofFraction num den := ⟨num / den⟩
  fixed places x :=
    let scaled := |x.value| * Nat.pow 10 places
    let digits := Number.fixedDigits places (Number.nearestEven scaled).toNat
    String.ofList (if x.value < 0 then '-' :: digits else digits)

theorem Unrounded.value_half : (Magnitude.half : Unrounded).value = 1 / 2 := by
  show ((1 : ℕ) / (2 : ℕ) : ℝ) = 1 / 2
  norm_num

noncomputable instance : Exact Unrounded where
  IsFinite _ := True
  value := Unrounded.value
  nearest x := x
  nearest_mono := monotone_id
  nearest_value _ := rfl
  nearest_sub_pos _ _ hlt := sub_pos.2 hlt
  less_iff _ _ := decide_eq_true_iff
  sub _ _ _ _ := ⟨trivial, rfl⟩
  div _ _ _ _ _ := ⟨trivial, rfl⟩
  finite_half := trivial
  value_half := Unrounded.value_half
  ofInt {n x} h := by
    obtain rfl : ⟨((n : ℤ) : ℝ)⟩ = x := Option.some.inj h
    exact ⟨trivial, Int.cast_natCast n⟩
  exists_zero := ⟨⟨0⟩, trivial, rfl⟩
  exists_one := ⟨⟨1⟩, trivial, rfl⟩
  finite _ := trivial
  nearest_eq _ := rfl
  exists_ofInt n := ⟨⟨(n : ℤ)⟩, rfl⟩

end TagCloud
