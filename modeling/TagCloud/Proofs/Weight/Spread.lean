import TagCloud.Proofs.Number.Rounded
import TagCloud.Proofs.Order.Selection

/-!
# The scale of the weights

Weights lie on a scale between the least and the greatest logarithm of the tallies that qualify. The
place of a logarithm on the scale is one quotient of two differences, each of them rounded, and
rounding keeps the order: so the places keep the order of the logarithms, the ends of the scale are
at zero and at one exactly, and nothing lies beyond them. When the ends are one and the same, no
quotient is formed.

All that is asked of the logarithm is that it is finite and keeps the order on the counts at hand,
and that its values are not so far apart that their difference is beyond all numbers.
-/

namespace TagCloud

open Rounded

variable {R : Type} [Magnitude R] [Rounded R]

/-! ## The ends of a scale -/

/-- Two members of a list between which all its members lie. -/
structure Ends (xs : List R) (low high : R) : Prop where
  low_mem : low ∈ xs
  high_mem : high ∈ xs
  low_le : ∀ y ∈ xs, value low ≤ value y
  le_high : ∀ y ∈ xs, value y ≤ value high

/-- Where the ends are one, nothing lies between them. -/
theorem Ends.eq_of_eq {xs : List R} {low high a b : R} (h : Ends xs low high)
    (heq : value low = value high) (ha : a ∈ xs) (hb : b ∈ xs) : value a = value b := by
  refine le_antisymm ?_ ?_
  · exact (h.le_high a ha).trans (heq.ge.trans (h.low_le b hb))
  · exact (h.le_high b hb).trans (heq.ge.trans (h.low_le a ha))

/-- Going through a list and taking whatever is better ends with a best member of it. -/
theorem foldl_best {α : Type} (better : α → α → Bool) (f : α → ℝ) {x : α} {xs : List α}
    (h : ∀ y ∈ x :: xs, ∀ z ∈ x :: xs, better y z = true ↔ f y < f z) :
    xs.foldl (fun best y => if better y best then y else best) x ∈ x :: xs
      ∧ ∀ y ∈ x :: xs, f (xs.foldl (fun best y => if better y best then y else best) x) ≤ f y := by
  induction xs generalizing x with
  | nil => simp
  | cons z zs ih =>
      have hzx := h z (by simp) x (by simp)
      rw [List.foldl_cons]
      split
      · next hbetter =>
          have hlt := hzx.1 hbetter
          have hsub : ∀ y ∈ z :: zs, y ∈ x :: z :: zs := fun y hy => List.mem_cons_of_mem _ hy
          obtain ⟨hmem, hle⟩ := ih fun y hy w hw => h y (hsub y hy) w (hsub w hw)
          refine ⟨hsub _ hmem, fun y hy => ?_⟩
          rcases List.mem_cons.1 hy with rfl | hy
          · exact (hle z List.mem_cons_self).trans hlt.le
          · exact hle y hy
      · next hbetter =>
          have hge := not_lt.1 (mt hzx.2 hbetter)
          have hsub : ∀ y ∈ x :: zs, y ∈ x :: z :: zs := by simp; tauto
          obtain ⟨hmem, hle⟩ := ih fun y hy w hw => h y (hsub y hy) w (hsub w hw)
          refine ⟨hsub _ hmem, fun y hy => ?_⟩
          have hx := hle x List.mem_cons_self
          rcases List.mem_cons.1 hy with rfl | hy
          · exact hx
          · rcases List.mem_cons.1 hy with rfl | hy
            · exact hx.trans hge
            · exact hle y (List.mem_cons_of_mem _ hy)

theorem ends_cons {x : R} {xs : List R} (h : ∀ y ∈ x :: xs, IsFinite y) :
    Ends (x :: xs) (leastOf x xs) (greatestOf x xs) := by
  have hleast := foldl_best Magnitude.less value fun y hy z hz => less_iff (h y hy) (h z hz)
  have hgreatest := foldl_best (fun y z => Magnitude.less z y) (fun y => -value y)
    fun y hy z hz => (less_iff (h z hz) (h y hy)).trans neg_lt_neg_iff.symm
  exact ⟨hleast.1, hgreatest.1, hleast.2, fun y hy => neg_le_neg_iff.1 (hgreatest.2 y hy)⟩

/-! ## The places on it -/

/-- The place of `y` on the scale of some logarithms. -/
def placeOf (logs : List R) (y : R) : R :=
  match logs with
  | [] => Magnitude.half
  | x :: xs =>
    if Magnitude.less (leastOf x xs) (greatestOf x xs) then
      (y - leastOf x xs) / (greatestOf x xs - leastOf x xs)
    else Magnitude.half

omit [Rounded R] in
theorem spread_eq_map (logs : List R) : spread logs = logs.map (placeOf logs) := by
  cases logs with
  | nil => rfl
  | cons x xs =>
      unfold spread placeOf
      simp only []
      split
      · rfl
      · rfl

/-- Finite numbers whose differences are within the range of the numbers. -/
structure Spannable (xs : Set R) : Prop where
  finite : ∀ x ∈ xs, IsFinite x
  inRange : ∀ x ∈ xs, ∀ y ∈ xs, ∃ z : R, IsFinite z ∧ |value x - value y| ≤ value z

/-- Finite numbers that are not negative are not too far apart. -/
theorem spannable_of_nonneg {xs : Set R} (hfinite : ∀ x ∈ xs, IsFinite x)
    (hnonneg : ∀ x ∈ xs, 0 ≤ value x) : Spannable xs where
  finite := hfinite
  inRange x hx y hy := by
    rcases le_total (value x) (value y) with hle | hle
    · refine ⟨y, hfinite y hy, ?_⟩
      rw [abs_sub_comm, abs_of_nonneg (by linarith)]
      linarith [hnonneg x hx]
    · refine ⟨x, hfinite x hx, ?_⟩
      rw [abs_of_nonneg (by linarith)]
      linarith [hnonneg y hy]

section

variable {x : R} {xs : List R} (h : Spannable {y | y ∈ x :: xs})

include h

/-- What a logarithm is above the least of them. -/
theorem rise_of_mem {y : R} (hy : y ∈ x :: xs) :
    IsFinite (y - leastOf x xs)
      ∧ value (y - leastOf x xs) = nearest R (value y - value (leastOf x xs)) := by
  have hlow := (ends_cons h.finite).low_mem
  obtain ⟨z, hz, hle⟩ := h.inRange y hy _ hlow
  exact sub (h.finite y hy) (h.finite _ hlow) hz hle

/-- Where the ends differ, so does their difference from zero. -/
theorem extent_pos (hless : Magnitude.less (leastOf x xs) (greatestOf x xs) = true) :
    0 < value (greatestOf x xs - leastOf x xs) := by
  have hends := ends_cons h.finite
  have hlow := h.finite _ hends.low_mem
  have hhigh := h.finite _ hends.high_mem
  rw [(rise_of_mem h hends.high_mem).2]
  exact nearest_sub_pos hlow hhigh ((less_iff hlow hhigh).1 hless)

end

/-- How a place is worked out. There is a scale only if its ends differ. -/
theorem placeOf_cases {logs : List R} (h : Spannable {x | x ∈ logs}) (hne : logs ≠ []) :
    ∃ low high, Ends logs low high ∧
      ((value low = value high ∧ ∀ y ∈ logs, placeOf logs y = Magnitude.half)
        ∨ (value low < value high ∧ ∀ y ∈ logs, IsFinite (placeOf logs y) ∧
            value (placeOf logs y) = nearest R
              (nearest R (value y - value low) / nearest R (value high - value low)))) := by
  cases logs with
  | nil => exact absurd rfl hne
  | cons x xs =>
      have hends := ends_cons h.finite
      have hlow := h.finite _ hends.low_mem
      have hhigh := h.finite _ hends.high_mem
      refine ⟨_, _, hends, ?_⟩
      by_cases hless : Magnitude.less (leastOf x xs) (greatestOf x xs) = true
      · refine Or.inr ⟨(less_iff hlow hhigh).1 hless, fun y hy => ?_⟩
        have hextent := rise_of_mem h hends.high_mem
        have hrise := rise_of_mem h hy
        have hzero : 0 ≤ value (y - leastOf x xs) := by
          rw [hrise.2]
          exact nearest_nonneg R (sub_nonneg.2 (hends.low_le y hy))
        have hle : value (y - leastOf x xs) ≤ value (greatestOf x xs - leastOf x xs) := by
          rw [hrise.2, hextent.2]
          exact nearest_mono (sub_le_sub_right (hends.le_high y hy) _)
        have hquotient := div_of_le hrise.1 hextent.1 (extent_pos h hless) hzero hle
        rw [placeOf, if_pos hless, ← hrise.2, ← hextent.2]
        exact hquotient
      · have hge := not_lt.1 (mt (less_iff hlow hhigh).2 hless)
        refine Or.inl ⟨le_antisymm (hends.low_le _ hends.high_mem) hge, fun y _ => ?_⟩
        rw [placeOf, if_neg hless]

/-! ## What is known of the places -/

section

variable {logs : List R} {y z : R} (h : Spannable {x | x ∈ logs}) (hy : y ∈ logs)

include h hy

theorem finite_placeOf : IsFinite (placeOf logs y) := by
  rcases placeOf_cases h (List.ne_nil_of_mem hy) with ⟨low, high, -, ⟨-, hhalf⟩ | ⟨-, hplace⟩⟩
  · rw [hhalf y hy]
    exact finite_half
  · exact (hplace y hy).1

theorem placeOf_mem_unit : 0 ≤ value (placeOf logs y) ∧ value (placeOf logs y) ≤ 1 := by
  rcases placeOf_cases h (List.ne_nil_of_mem hy) with ⟨low, high, hends, ⟨-, hhalf⟩ | ⟨-, hplace⟩⟩
  · rw [hhalf y hy, value_half]
    constructor <;> norm_num
  · rw [(hplace y hy).2]
    have hrise := nearest_nonneg R (sub_nonneg.2 (hends.low_le y hy))
    have hle : nearest R (value y - value low) ≤ nearest R (value high - value low) :=
      nearest_mono (sub_le_sub_right (hends.le_high y hy) _)
    exact ⟨nearest_nonneg R (div_nonneg hrise (hrise.trans hle)),
      nearest_le_one R (div_le_one_of_le₀ hle (hrise.trans hle))⟩

/-- Places keep the order. -/
theorem placeOf_mono (hz : z ∈ logs) (hle : value y ≤ value z) :
    value (placeOf logs y) ≤ value (placeOf logs z) := by
  rcases placeOf_cases h (List.ne_nil_of_mem hy) with ⟨low, high, hends, ⟨-, hhalf⟩ | ⟨hlt, hplace⟩⟩
  · rw [hhalf y hy, hhalf z hz]
  · rw [(hplace y hy).2, (hplace z hz).2]
    have hextent := nearest_nonneg R (sub_nonneg.2 hlt.le)
    exact nearest_mono (div_le_div_of_nonneg_right (nearest_mono (sub_le_sub_right hle _)) hextent)

variable (hdiffer : ∃ a ∈ logs, ∃ b ∈ logs, value a ≠ value b)

include hdiffer

/-- The lower end is at zero. -/
theorem placeOf_eq_zero (hleast : ∀ z ∈ logs, value y ≤ value z) : value (placeOf logs y) = 0 := by
  obtain ⟨a, ha, b, hb, hne⟩ := hdiffer
  rcases placeOf_cases h (List.ne_nil_of_mem hy) with ⟨low, high, hends, ⟨heq, -⟩ | ⟨-, hplace⟩⟩
  · exact absurd (hends.eq_of_eq heq ha hb) hne
  · have hlow : value y = value low :=
      le_antisymm (hleast low hends.low_mem) (hends.low_le y hy)
    rw [(hplace y hy).2, hlow, sub_self, nearest_zero, zero_div, nearest_zero]

/-- The upper end is at one. -/
theorem placeOf_eq_one (hgreatest : ∀ z ∈ logs, value z ≤ value y) :
    value (placeOf logs y) = 1 := by
  obtain ⟨a, ha, b, hb, hne⟩ := hdiffer
  rcases placeOf_cases h (List.ne_nil_of_mem hy) with ⟨low, high, hends, ⟨heq, -⟩ | ⟨hlt, hplace⟩⟩
  · exact absurd (hends.eq_of_eq heq ha hb) hne
  · have hhigh : value y = value high :=
      le_antisymm (hends.le_high y hy) (hgreatest high hends.high_mem)
    have hpos := nearest_sub_pos (h.finite _ hends.low_mem) (h.finite _ hends.high_mem) hlt
    rw [(hplace y hy).2, hhigh, div_self hpos.ne', nearest_one]

end

theorem placeOf_eq_half {logs : List R} {y : R} (h : Spannable {x | x ∈ logs}) (hy : y ∈ logs)
    (hequal : ∀ a ∈ logs, ∀ b ∈ logs, value a = value b) : placeOf logs y = Magnitude.half := by
  rcases placeOf_cases h (List.ne_nil_of_mem hy) with ⟨low, high, hends, ⟨-, hhalf⟩ | ⟨hlt, -⟩⟩
  · exact hhalf y hy
  · exact absurd (hequal low hends.low_mem high hends.high_mem) hlt.ne

/-- Without rounding, places keep the order strictly. -/
theorem placeOf_strictMono {E : Type} [Magnitude E] [Exact E] {logs : List E} {y z : E}
    (h : Spannable {x | x ∈ logs}) (hy : y ∈ logs) (hz : z ∈ logs) (hlt : value y < value z) :
    value (placeOf logs y) < value (placeOf logs z) := by
  rcases placeOf_cases h (List.ne_nil_of_mem hy) with
    ⟨low, high, hends, ⟨heq, -⟩ | ⟨hends', hplace⟩⟩
  · exact absurd (hends.eq_of_eq heq hy hz) hlt.ne
  · rw [(hplace y hy).2, (hplace z hz).2]
    simp only [Exact.nearest_eq]
    exact div_lt_div_of_pos_right (sub_lt_sub_right hlt _) (sub_pos.2 hends')

end TagCloud
