import Mathlib
import TagCloud.Number.Binary64

/-!
# The nearest number

A real number is rounded to a multiple of the last place that it has as a double: fifty-two places
below its first one, but no lower than the least place of all. Within one such scale that is
rounding to a whole number, a half going to the even neighbour, and the scales fit together where
they meet, because the greatest number of the lower scale is rounded to the least number of the next
one at most. So rounding keeps the order, and it leaves every double alone. Of the digits behind the
last place it takes two bits to round: whether they come to a half, and whether there is more.

There is no greatest number here. What lies beyond the range of the doubles is rounded as if the
exponents went on.
-/

namespace TagCloud.Number

open Float.Model.UnpackedFloat (ExtendedMantissa)

/-! ## Whole numbers -/

/-- The whole number nearest to `x`, a half going to the even neighbour. -/
noncomputable def nearestEven (x : ℝ) : ℤ :=
  if Int.fract x < 1 / 2 then ⌊x⌋
  else if 1 / 2 < Int.fract x then ⌊x⌋ + 1
  else if Even ⌊x⌋ then ⌊x⌋ else ⌊x⌋ + 1

theorem nearestEven_intCast (n : ℤ) : nearestEven n = n := by
  unfold nearestEven
  rw [Int.fract_intCast, if_pos (by norm_num), Int.floor_intCast]

theorem floor_le_nearestEven (x : ℝ) : ⌊x⌋ ≤ nearestEven x := by
  unfold nearestEven
  split_ifs <;> omega

theorem nearestEven_le_floor_add_one (x : ℝ) : nearestEven x ≤ ⌊x⌋ + 1 := by
  unfold nearestEven
  split_ifs <;> omega

theorem nearestEven_mono {x y : ℝ} (hxy : x ≤ y) : nearestEven x ≤ nearestEven y := by
  have hfloor : ⌊x⌋ ≤ ⌊y⌋ := Int.floor_mono hxy
  rcases lt_or_eq_of_le hfloor with hlt | heq
  · have hx := nearestEven_le_floor_add_one x
    have hy := floor_le_nearestEven y
    omega
  · -- on one floor the fractions are in order
    have hfract : Int.fract x ≤ Int.fract y := by
      unfold Int.fract
      rw [heq]
      linarith
    unfold nearestEven
    rw [heq]
    split_ifs <;> first | omega | (exfalso; linarith)

/-- What is known of a number between two whole numbers decides how it is rounded. -/
theorem nearestEven_of_lt {n : ℤ} {x : ℝ} (hle : n ≤ x) (hlt : x < n + 1 / 2) :
    nearestEven x = n := by
  have hfloor : ⌊x⌋ = n := Int.floor_eq_iff.2 ⟨hle, by linarith⟩
  unfold nearestEven Int.fract
  rw [hfloor, if_pos (by linarith)]

theorem nearestEven_of_gt {n : ℤ} {x : ℝ} (hgt : n + 1 / 2 < x) (hlt : x < n + 1) :
    nearestEven x = n + 1 := by
  have hfloor : ⌊x⌋ = n := Int.floor_eq_iff.2 ⟨by linarith, hlt⟩
  unfold nearestEven Int.fract
  rw [hfloor, if_neg (by linarith), if_pos (by linarith)]

theorem nearestEven_of_eq {n : ℤ} {x : ℝ} (heq : x = n + 1 / 2) :
    nearestEven x = n + n % 2 := by
  have hfloor : ⌊x⌋ = n := Int.floor_eq_iff.2 ⟨by linarith, by linarith⟩
  unfold nearestEven Int.fract
  rw [hfloor, if_neg (by linarith), if_neg (by linarith)]
  split_ifs with heven
  · rw [Int.even_iff.1 heven, add_zero]
  · rw [Int.not_even_iff.1 heven]

/-- A number lies below the middle between two whole numbers, in it or above it. -/
theorem exists_place (x : ℝ) :
    ∃ n : ℤ, (n ≤ x ∧ x < n + 1 / 2) ∨ x = n + 1 / 2 ∨ (n + 1 / 2 < x ∧ x < n + 1) := by
  refine ⟨⌊x⌋, ?_⟩
  have hle := Int.floor_le x
  have hlt := Int.lt_floor_add_one x
  rcases lt_trichotomy x (⌊x⌋ + 1 / 2) with h | h | h
  · exact Or.inl ⟨hle, h⟩
  · exact Or.inr (Or.inl h)
  · exact Or.inr (Or.inr ⟨h, hlt⟩)

theorem nearestEven_neg (x : ℝ) : nearestEven (-x) = -nearestEven x := by
  obtain ⟨n, ⟨hle, hlt⟩ | heq | ⟨hgt, hlt⟩⟩ := exists_place x
  · rw [nearestEven_of_lt hle hlt]
    rcases lt_or_eq_of_le hle with hlt' | heq
    · rw [nearestEven_of_gt (n := -n - 1) (by push_cast; linarith) (by push_cast; linarith)]
      omega
    · rw [← heq, ← Int.cast_neg, nearestEven_intCast]
  · rw [nearestEven_of_eq heq, nearestEven_of_eq (n := -n - 1) (by push_cast; linarith)]
    omega
  · rw [nearestEven_of_gt hgt hlt,
      nearestEven_of_lt (n := -n - 1) (by push_cast; linarith) (by push_cast; linarith)]
    omega

theorem natCast_div_eq (num : ℕ) {den : ℕ} (hden : 0 < den) :
    (num : ℝ) / den = (num / den : ℕ) + (num % den : ℕ) / (den : ℝ) := by
  have hpos : (0 : ℝ) < den := by exact_mod_cast hden
  have hsplit : (num : ℝ) = den * (num / den : ℕ) + (num % den : ℕ) := by
    exact_mod_cast (Nat.div_add_mod num den).symm
  conv_lhs => rw [hsplit, add_div, mul_div_cancel_left₀ _ hpos.ne']

theorem natCast_div_lt_half_iff (r : ℕ) {den : ℕ} (hden : 0 < den) :
    (r : ℝ) / den < 1 / 2 ↔ 2 * r < den := by
  rw [div_lt_div_iff₀ (by exact_mod_cast hden) two_pos, one_mul, mul_comm]
  exact_mod_cast Iff.rfl

theorem half_lt_natCast_div_iff (r : ℕ) {den : ℕ} (hden : 0 < den) :
    1 / 2 < (r : ℝ) / den ↔ den < 2 * r := by
  rw [div_lt_div_iff₀ two_pos (by exact_mod_cast hden), one_mul, mul_comm]
  exact_mod_cast Iff.rfl

theorem natCast_div_eq_half {r den : ℕ} (hden : 0 < den) (h : 2 * r = den) :
    (r : ℝ) / den = 1 / 2 := by
  refine le_antisymm ?_ ?_
  · exact not_lt.1 (mt (half_lt_natCast_div_iff r hden).1 (by omega))
  · exact not_lt.1 (mt (natCast_div_lt_half_iff r hden).1 (by omega))

theorem natCast_mod_div_lt_one (num : ℕ) {den : ℕ} (hden : 0 < den) :
    ((num % den : ℕ) : ℝ) / den < 1 :=
  (div_lt_one (by exact_mod_cast hden)).2 (by exact_mod_cast Nat.mod_lt num hden)

/-- The rounded quotient of the library is the nearest whole number. -/
theorem nearestEven_div (num : ℕ) {den : ℕ} (hden : 0 < den) :
    nearestEven (num / den) = roundHalfEven num den := by
  have hnonneg : (0 : ℝ) ≤ (num % den : ℕ) / (den : ℝ) := by positivity
  have hone := natCast_mod_div_lt_one num hden
  have hquotient : (num : ℝ) / den = ((num / den : ℕ) : ℤ) + (num % den : ℕ) / (den : ℝ) := by
    rw [natCast_div_eq num hden, Int.cast_natCast]
  unfold roundHalfEven
  simp only []
  rw [hquotient]
  split_ifs with hlt hgt heven
  · have hhalf := (natCast_div_lt_half_iff _ hden).2 hlt
    exact nearestEven_of_lt (by linarith) (by linarith)
  · have hhalf := (half_lt_natCast_div_iff _ hden).2 hgt
    rw [nearestEven_of_gt (n := (num / den : ℕ)) (by linarith) (by linarith)]
    rfl
  · rw [natCast_div_eq_half hden (by omega), nearestEven_of_eq rfl]
    omega
  · rw [natCast_div_eq_half hden (by omega), nearestEven_of_eq rfl]
    omega

/-! ## Digits and the bits behind them -/

/-- Where a number lies, in units of the last digit: the first bit behind the digits stands for a
half, the second for something less than that. -/
def Holds (em : ExtendedMantissa) (t : ℝ) : Prop :=
  match em.roundBit, em.stickyBit with
  | false, false => t = em.mantissa
  | false, true => em.mantissa < t ∧ t < em.mantissa + 1 / 2
  | true, false => t = em.mantissa + 1 / 2
  | true, true => em.mantissa + 1 / 2 < t ∧ t < em.mantissa + 1

/-- Shifting a digit out halves the number. -/
theorem Holds.shiftRightOne {em : ExtendedMantissa} {t : ℝ} (h : Holds em t) :
    Holds em.shiftRightOne (t / 2) := by
  obtain ⟨m, r, s⟩ := em
  rcases Nat.even_or_odd' m with ⟨q, rfl | rfl⟩
  · have hdiv : 2 * q / 2 = q := by omega
    have hmod : (2 * q % 2 != 0) = false := by simp
    cases r <;> cases s <;>
      simp only [Holds, ExtendedMantissa.shiftRightOne, hdiv, hmod, Bool.or_false,
        Bool.or_true] at h ⊢ <;>
      push_cast at h <;> first | linarith | (constructor <;> linarith)
  · have hdiv : (2 * q + 1) / 2 = q := by omega
    have hmod : ((2 * q + 1) % 2 != 0) = true := by simp
    cases r <;> cases s <;>
      simp only [Holds, ExtendedMantissa.shiftRightOne, hdiv, hmod, Bool.or_false,
        Bool.or_true] at h ⊢ <;>
      push_cast at h <;> first | linarith | (constructor <;> linarith)

theorem Holds.shiftRight {em : ExtendedMantissa} {t : ℝ} (h : Holds em t) (n : ℕ) :
    Holds (em >>> n) (t / 2 ^ n) := by
  induction n with
  | zero =>
      rw [pow_zero, div_one]
      exact h
  | succ n ih =>
      rw [pow_succ, ← div_div]
      exact ih.shiftRightOne

theorem Holds.nearestEven {em : ExtendedMantissa} {t : ℝ} (h : Holds em t) :
    nearestEven t = em.roundedMantissa := by
  obtain ⟨m, r, s⟩ := em
  cases r <;> cases s <;> simp only [Holds] at h
  · rw [h]
    exact_mod_cast nearestEven_intCast m
  · exact nearestEven_of_lt (n := m) (by exact_mod_cast h.1.le) (by exact_mod_cast h.2)
  · rw [nearestEven_of_eq (n := m) (by exact_mod_cast h)]
    rfl
  · rw [nearestEven_of_gt (n := m) (by exact_mod_cast h.1) (by exact_mod_cast h.2)]
    rfl

/-! ## Numbers with a last place -/

/-- The exponent of the last place of a number: fifty-two places below the first, and no lower than
the least place of all. -/
noncomputable def lastPlace (x : ℝ) : ℤ :=
  max (Int.log 2 |x| - 52) (-1074)

/-- The number that `x` is rounded to. -/
noncomputable def rounded (x : ℝ) : ℝ :=
  nearestEven (x / 2 ^ lastPlace x) * 2 ^ lastPlace x

theorem two_zpow_pos (e : ℤ) : (0 : ℝ) < 2 ^ e :=
  zpow_pos two_pos e

theorem lt_two_zpow_iff {x : ℝ} (h : 0 < x) {e : ℤ} : x < 2 ^ e ↔ Int.log 2 x < e := by
  have hlog := Int.lt_zpow_iff_log_lt (b := 2) (by norm_num) h (x := e)
  exact_mod_cast hlog

theorem two_zpow_le_iff {x : ℝ} (h : 0 < x) {e : ℤ} : 2 ^ e ≤ x ↔ e ≤ Int.log 2 x := by
  have hlog := Int.zpow_le_iff_le_log (b := 2) (by norm_num) h (x := e)
  exact_mod_cast hlog

theorem rounded_neg (x : ℝ) : rounded (-x) = -rounded x := by
  unfold rounded lastPlace
  rw [abs_neg, neg_div, nearestEven_neg, Int.cast_neg, neg_mul]

theorem rounded_zero : rounded 0 = 0 := by
  have hzero : nearestEven 0 = 0 := by exact_mod_cast nearestEven_intCast 0
  rw [rounded, zero_div, hzero, Int.cast_zero, zero_mul]

theorem rounded_nonneg {x : ℝ} (h : 0 ≤ x) : 0 ≤ rounded x := by
  have hquotient : nearestEven 0 ≤ nearestEven (x / 2 ^ lastPlace x) :=
    nearestEven_mono (div_nonneg h (two_zpow_pos _).le)
  have hzero : nearestEven 0 = 0 := by exact_mod_cast nearestEven_intCast 0
  rw [hzero] at hquotient
  exact mul_nonneg (by exact_mod_cast hquotient) (two_zpow_pos _).le

/-- A positive number has at most fifty-three digits down to its last place. -/
theorem lt_of_lastPlace {x : ℝ} (h : 0 < x) : x < 2 ^ (lastPlace x + 53) := by
  rw [lt_two_zpow_iff h, lastPlace, abs_of_pos h]
  omega

/-- It has that many, unless its last place is the least one. -/
theorem le_of_lastPlace {x : ℝ} (h : 0 < x) (hleast : -1074 < lastPlace x) :
    2 ^ (lastPlace x + 52) ≤ x := by
  rw [lastPlace, abs_of_pos h] at hleast
  rw [two_zpow_le_iff h, lastPlace, abs_of_pos h]
  omega

theorem lastPlace_mono {x y : ℝ} (h : 0 < x) (hle : x ≤ y) : lastPlace x ≤ lastPlace y := by
  have hlog := Int.log_mono_right (b := 2) h hle
  rw [lastPlace, lastPlace, abs_of_pos h, abs_of_pos (h.trans_le hle)]
  omega

/-- The digits down to the last place, rounded. They may run over into one more digit. -/
theorem nearestEven_le_of_lastPlace {x : ℝ} (h : 0 < x) :
    nearestEven (x / 2 ^ lastPlace x) ≤ 2 ^ 53 := by
  have hquotient : x / 2 ^ lastPlace x ≤ ((2 ^ 53 : ℤ) : ℝ) := by
    have hlt := lt_of_lastPlace h
    rw [zpow_add₀ two_ne_zero] at hlt
    rw [div_le_iff₀ (two_zpow_pos _)]
    push_cast
    linarith
  have hmono := nearestEven_mono hquotient
  rwa [nearestEven_intCast] at hmono

theorem le_nearestEven_of_lastPlace {x : ℝ} (h : 0 < x) (hleast : -1074 < lastPlace x) :
    2 ^ 52 ≤ nearestEven (x / 2 ^ lastPlace x) := by
  have hquotient : ((2 ^ 52 : ℤ) : ℝ) ≤ x / 2 ^ lastPlace x := by
    have hle := le_of_lastPlace h hleast
    rw [zpow_add₀ two_ne_zero] at hle
    rw [le_div_iff₀ (two_zpow_pos _)]
    push_cast
    linarith
  have hmono := nearestEven_mono hquotient
  rwa [nearestEven_intCast] at hmono

theorem rounded_monoOn : MonotoneOn rounded (Set.Ici 0) := by
  intro x hx y _ hle
  rcases lt_or_eq_of_le (Set.mem_Ici.1 hx) with hpos | rfl
  · have hypos := hpos.trans_le hle
    rcases lt_or_eq_of_le (lastPlace_mono hpos hle) with hlt | heq
    · -- a power of two lies between the two scales
      have hbelow : rounded x ≤ 2 ^ (53 : ℤ) * 2 ^ lastPlace x :=
        mul_le_mul_of_nonneg_right (by exact_mod_cast nearestEven_le_of_lastPlace hpos)
          (two_zpow_pos _).le
      have hleast : -1074 < lastPlace y := lt_of_le_of_lt (le_max_right _ _) hlt
      have habove : 2 ^ (52 : ℤ) * 2 ^ lastPlace y ≤ rounded y :=
        mul_le_mul_of_nonneg_right (by exact_mod_cast le_nearestEven_of_lastPlace hypos hleast)
          (two_zpow_pos _).le
      have hbetween : (2 : ℝ) ^ (53 : ℤ) * 2 ^ lastPlace x ≤ 2 ^ (52 : ℤ) * 2 ^ lastPlace y := by
        rw [← zpow_add₀ two_ne_zero, ← zpow_add₀ two_ne_zero]
        exact zpow_le_zpow_right₀ one_le_two (by omega)
      exact hbelow.trans (hbetween.trans habove)
    · rw [rounded, rounded, heq]
      have hscaled := div_le_div_of_nonneg_right hle (two_zpow_pos (lastPlace y)).le
      have hmantissa := nearestEven_mono hscaled
      exact mul_le_mul_of_nonneg_right (by exact_mod_cast hmantissa) (two_zpow_pos _).le
  · rw [rounded_zero]
    exact rounded_nonneg hle

/-- Rounding keeps the order. -/
theorem rounded_mono : Monotone rounded :=
  monotone_of_odd_of_monotoneOn_nonneg rounded_neg rounded_monoOn

/-! ## Numbers that need no rounding -/

/-- A number of at most fifty-three digits from the least place upwards. -/
def Representable (x : ℝ) : Prop :=
  ∃ (m : ℤ) (e : ℤ), |m| < 2 ^ 53 ∧ -1074 ≤ e ∧ x = m * 2 ^ e

theorem Representable.neg {x : ℝ} (h : Representable x) : Representable (-x) := by
  obtain ⟨m, e, hm, he, rfl⟩ := h
  exact ⟨-m, e, by rwa [abs_neg], he, by rw [Int.cast_neg, neg_mul]⟩

/-- A multiple of a power of two is one of any lower power. -/
theorem exists_eq_mul_zpow (m : ℤ) {e f : ℤ} (h : f ≤ e) :
    ∃ n : ℤ, (m : ℝ) * 2 ^ e = n * 2 ^ f := by
  obtain ⟨k, hk⟩ := Int.eq_ofNat_of_zero_le (sub_nonneg.2 h)
  refine ⟨m * 2 ^ k, ?_⟩
  have he : e = k + f := by omega
  rw [he, zpow_add₀ two_ne_zero, zpow_natCast, ← mul_assoc]
  push_cast
  rfl

theorem rounded_of_representable {x : ℝ} (h : Representable x) : rounded x = x := by
  obtain ⟨m, e, hm, he, rfl⟩ := h
  have hplace : lastPlace (m * 2 ^ e) ≤ e ∨ (m : ℝ) * 2 ^ e = 0 := by
    by_cases hzero : (m : ℝ) * 2 ^ e = 0
    · exact Or.inr hzero
    · left
      have hlt : |(m : ℝ) * 2 ^ e| < 2 ^ (e + 53) := by
        rw [abs_mul, abs_of_pos (two_zpow_pos e), zpow_add₀ two_ne_zero, mul_comm]
        exact mul_lt_mul_of_pos_left (by exact_mod_cast hm) (two_zpow_pos e)
      rw [lt_two_zpow_iff (abs_pos.2 hzero)] at hlt
      rw [lastPlace]
      omega
  rcases hplace with hle | hzero
  · obtain ⟨n, hn⟩ := exists_eq_mul_zpow m hle
    rw [rounded]
    nth_rewrite 1 [hn]
    rw [mul_div_cancel_right₀ _ (two_zpow_pos _).ne', nearestEven_intCast, ← hn]
  · rw [hzero, rounded_zero]

/-- A difference of two numbers that need no rounding is not rounded to zero. -/
theorem rounded_sub_pos {x y : ℝ} (hx : Representable x) (hy : Representable y) (hlt : x < y) :
    0 < rounded (y - x) := by
  obtain ⟨m, e, -, he, rfl⟩ := hx
  obtain ⟨n, f, -, hf, rfl⟩ := hy
  obtain ⟨i, hi⟩ := exists_eq_mul_zpow m he
  obtain ⟨j, hj⟩ := exists_eq_mul_zpow n hf
  have hone : (1 : ℝ) * 2 ^ (-1074 : ℤ) ≤ n * 2 ^ f - m * 2 ^ e := by
    rw [hi, hj] at hlt ⊢
    have hij : i < j := by exact_mod_cast lt_of_mul_lt_mul_right hlt (two_zpow_pos _).le
    have hle : (1 : ℝ) ≤ j - i := by exact_mod_cast (by omega : (1 : ℤ) ≤ j - i)
    rw [← sub_mul]
    exact mul_le_mul_of_nonneg_right hle (two_zpow_pos _).le
  have hleast : Representable (1 * 2 ^ (-1074 : ℤ)) :=
    ⟨1, -1074, by norm_num, le_refl _, by norm_num⟩
  have hround := rounded_mono hone
  rw [rounded_of_representable hleast] at hround
  have hpos := two_zpow_pos (-1074)
  linarith

/-! ## The numbers of data -/

/-- A datum that is a number. -/
def Datum.IsFinite : Datum → Prop
  | .finite .. => True
  | .infinite _ => False
  | .nan => False

instance : DecidablePred Datum.IsFinite
  | .finite .. => .isTrue trivial
  | .infinite _ => .isFalse id
  | .nan => .isFalse id

/-- The real number that a datum is. -/
noncomputable def Datum.value : Datum → ℝ
  | .finite negative m e => if negative then -(m * 2 ^ e) else m * 2 ^ e
  | .infinite _ => 0
  | .nan => 0

end TagCloud.Number
