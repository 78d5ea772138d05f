import TagCloud.Proofs.Number.Nearest

/-!
# Doubles taken apart

The arithmetic of doubles is done on a sign, digits and an exponent. What is shifted out of the
digits on the way is not lost: two bits behind them tell whether it is nothing, less than a half, a
half or more than a half, and that is all that rounding has to know. So a result is the exact one,
rounded once, as long as there are enough digits before the first shift.

A double taken apart stands for a number when its exponent is that of the last place; then it is
also compared like the number. All operations below are followed from what their operands stand for
to what their result stands for.
-/

namespace TagCloud.Number

open Float.Model Float.Model.UnpackedFloat

/-! ## Places of a double -/

theorem targetExponent_eq (m : ℕ) (e : ℤ) :
    Format.binary64.targetExponent (totalExponent m e) = max (m.log2 - 52 + e) (-1074) := by
  have hbits : (Format.binary64.mantissaBits : ℤ) = 53 := rfl
  have hleast : Format.binary64.minExponent = -1074 := rfl
  rw [Format.targetExponent, totalExponent, hbits, hleast]
  omega

/-- Digits and exponent of a double that is not zero. -/
structure Canonical (m : ℕ) (e : ℤ) : Prop where
  pos : 0 < m
  lt : m < 2 ^ 53
  least : -1074 ≤ e
  full : -1074 < e → 2 ^ 52 ≤ m

/-- A number with a sign. -/
def signed (s : Sign) (x : ℝ) : ℝ :=
  match s with
  | .negative => -x
  | .positive => x

theorem signed_zero (s : Sign) : signed s 0 = 0 := by
  cases s with
  | negative => exact neg_zero
  | positive => rfl

theorem rounded_signed (s : Sign) (x : ℝ) : rounded (signed s x) = signed s (rounded x) := by
  cases s with
  | negative => exact rounded_neg x
  | positive => rfl

/-- A double taken apart stands for a number. -/
inductive Stands : UnpackedFloat → ℝ → Prop where
  | zero (s : Sign) : Stands (.zero s) 0
  | finite (s : Sign) {m : ℕ} {e : ℤ} (hm : 0 < m) (h : Canonical m e) :
    Stands (.finite s m e hm) (signed s (m * 2 ^ e))

theorem Stands.representable {u : UnpackedFloat} {x : ℝ} (h : Stands u x) : Representable x := by
  cases h with
  | zero s => exact ⟨0, 0, by norm_num, by norm_num, by norm_num⟩
  | @finite s m e hm h =>
      have hlt : |(m : ℤ)| < 2 ^ 53 := by
        rw [Nat.abs_cast]
        exact_mod_cast h.lt
      have hpos : Representable (m * 2 ^ e) := ⟨m, e, hlt, h.least, by rw [Int.cast_natCast]⟩
      cases s with
      | negative => exact hpos.neg
      | positive => exact hpos

/-! ## Rounding -/

/-- There are digits enough before rounding. -/
def Enough (m : ℕ) (e : ℤ) : Prop :=
  52 ≤ m.log2 ∨ e ≤ -1074

theorem lastPlace_eq {m : ℕ} {e : ℤ} {t : ℝ} (henough : Enough m e) (hpos : 0 < t) (hle : m ≤ t)
    (hlt : t < m + 1) : lastPlace (t * 2 ^ e) = max (m.log2 - 52 + e) (-1074) := by
  have hx : 0 < t * 2 ^ e := mul_pos hpos (two_zpow_pos e)
  rw [lastPlace, abs_of_pos hx]
  rcases Nat.eq_zero_or_pos m with rfl | hm
  · -- less than one digit, so at the least place
    have hleast : e ≤ -1074 := henough.resolve_left (by simp)
    have hlog : Int.log 2 (t * 2 ^ e) < e := by
      rw [← lt_two_zpow_iff hx]
      have hone : t < 1 := by simpa using hlt
      exact mul_lt_of_lt_one_left (two_zpow_pos e) hone
    rw [Nat.log2_zero]
    omega
  · have hlow : (2 : ℝ) ^ m.log2 ≤ t := by
      have hself := Nat.log2_self_le hm.ne'
      exact le_trans (by exact_mod_cast hself) hle
    have hhigh : t < 2 ^ (m.log2 + 1) := by
      have hself : m + 1 ≤ 2 ^ (m.log2 + 1) := Nat.lt_log2_self
      exact lt_of_lt_of_le hlt (by exact_mod_cast hself)
    have hlog : Int.log 2 (t * 2 ^ e) = m.log2 + e := by
      refine le_antisymm ?_ ?_
      · rw [← Int.lt_add_one_iff, ← lt_two_zpow_iff hx, add_right_comm, zpow_add₀ two_ne_zero]
        exact mul_lt_mul_of_pos_right (by exact_mod_cast hhigh) (two_zpow_pos e)
      · rw [← two_zpow_le_iff hx, zpow_add₀ two_ne_zero, zpow_natCast]
        exact mul_le_mul_of_nonneg_right hlow (two_zpow_pos e).le
    rw [hlog]
    omega

theorem shiftToTargetExponent_eq (m : ℕ) (e : ℤ) (acc : Accuracy) :
    shiftToTargetExponent Format.binary64 m e acc
      = (ExtendedMantissa.ofMantissaAndAccuracy m acc
            >>> (max (m.log2 - 52 + e) (-1074) - e).toNat,
          e + (max (m.log2 - 52 + e) (-1074) - e).toNat) := by
  rw [shiftToTargetExponent, targetExponent_eq]
  rfl

/-- What has no more digits than a double stays as it is. -/
theorem shiftToTargetExponent_of_lt {q : ℕ} {p : ℤ} (hlt : q < 2 ^ 53) (hleast : -1074 ≤ p) :
    shiftToTargetExponent Format.binary64 q p .exact = (⟨q, false, false⟩, p) := by
  have hlog : q.log2 ≤ 52 := by
    rcases Nat.eq_zero_or_pos q with rfl | hpos
    · simp
    · exact Nat.lt_succ_iff.1 ((Nat.log2_lt hpos.ne').2 hlt)
  have hshift : (max (q.log2 - 52 + p) (-1074) - p).toNat = 0 := by omega
  rw [shiftToTargetExponent_eq, hshift, Int.natCast_zero, add_zero]
  rfl

/-- What has run over is shifted once, and nothing is lost. -/
theorem shiftToTargetExponent_carry {p : ℤ} (hleast : -1074 ≤ p) :
    shiftToTargetExponent Format.binary64 (2 ^ 53) p .exact = (⟨2 ^ 52, false, false⟩, p + 1) := by
  have hlog : (2 ^ 53 : ℕ).log2 = 53 := Nat.log2_two_pow
  have hshift : (max (((2 ^ 53 : ℕ).log2 : ℤ) - 52 + p) (-1074) - p).toNat = 1 := by
    rw [hlog]
    omega
  rw [shiftToTargetExponent_eq, hshift]
  rfl

/-- The digits of a rounded number at its last place. -/
structure Digits (x : ℝ) (q : ℕ) (p : ℤ) : Prop where
  eq : rounded x = q * 2 ^ p
  le : q ≤ 2 ^ 53
  full : q ≠ 0 → -1074 < p → 2 ^ 52 ≤ q

theorem digits_of_lastPlace {x : ℝ} {q : ℕ} {p : ℤ} (hnonneg : 0 ≤ x)
    (hplace : 0 < x → lastPlace x = p) (hq : nearestEven (x / 2 ^ p) = q) : Digits x q p := by
  rcases lt_or_eq_of_le hnonneg with hpos | rfl
  · have hp := hplace hpos
    subst hp
    refine ⟨?_, ?_, fun _ hleast => ?_⟩
    · rw [rounded, hq, Int.cast_natCast]
    · have hle := nearestEven_le_of_lastPlace hpos
      rw [hq] at hle
      exact_mod_cast hle
    · have hge := le_nearestEven_of_lastPlace hpos hleast
      rw [hq] at hge
      exact_mod_cast hge
  · have hzero : q = 0 := by
      rw [zero_div] at hq
      have hnone : nearestEven 0 = 0 := by exact_mod_cast nearestEven_intCast 0
      omega
    rw [hzero]
    exact ⟨by rw [rounded_zero, Nat.cast_zero, zero_mul], by norm_num, fun h => absurd rfl h⟩

/-- Rounding what is known exactly enough is rounding the number. -/
theorem roundWithAccuracy_stands {m : ℕ} {e : ℤ} {acc : Accuracy} {t : ℝ} (s : Sign)
    (h : Holds (ExtendedMantissa.ofMantissaAndAccuracy m acc) t) (hle : m ≤ t) (hlt : t < m + 1)
    (henough : Enough m e) :
    Stands (roundWithAccuracy Format.binary64 s m e acc) (signed s (rounded (t * 2 ^ e))) := by
  obtain ⟨k, hk⟩ : ∃ k, (max (m.log2 - 52 + e) (-1074) - e).toNat = k := ⟨_, rfl⟩
  have hplace : max (m.log2 - 52 + e) (-1074) = e + k := by
    unfold Enough at henough
    omega
  have hleast : -1074 ≤ e + k := by omega
  have hnonneg : 0 ≤ t := (Nat.cast_nonneg m).trans hle
  have hquotient : t * 2 ^ e / 2 ^ (e + k) = t / 2 ^ k := by
    rw [zpow_add₀ two_ne_zero, zpow_natCast, mul_comm t, mul_div_mul_left _ _ (two_zpow_pos e).ne']
  have hdigits : Digits (t * 2 ^ e)
      (ExtendedMantissa.ofMantissaAndAccuracy m acc >>> k).roundedMantissa (e + k) := by
    refine digits_of_lastPlace (mul_nonneg hnonneg (two_zpow_pos e).le) (fun hpos => ?_) ?_
    · rw [lastPlace_eq henough (pos_of_mul_pos_left hpos (two_zpow_pos e).le) hle hlt, hplace]
    · rw [hquotient]
      exact (h.shiftRight k).nearestEven
  unfold roundWithAccuracy
  rw [shiftToTargetExponent_eq, hk]
  simp only []
  generalize (ExtendedMantissa.ofMantissaAndAccuracy m acc >>> k).roundedMantissa = q at hdigits
  rw [hdigits.eq]
  rcases lt_or_eq_of_le hdigits.le with hq | rfl
  · rw [shiftToTargetExponent_of_lt hq hleast]
    simp only []
    split
    · next hzero =>
        rw [hzero, Nat.cast_zero, zero_mul, signed_zero]
        exact Stands.zero s
    · next hzero =>
        exact Stands.finite s _ ⟨Nat.pos_of_ne_zero hzero, hq, hleast, hdigits.full hzero⟩
  · rw [shiftToTargetExponent_carry hleast]
    have hcarry : ((2 ^ 53 : ℕ) : ℝ) * 2 ^ (e + k) = ((2 ^ 52 : ℕ) : ℝ) * 2 ^ (e + k + 1) := by
      rw [zpow_add_one₀ two_ne_zero]
      push_cast
      ring
    rw [hcarry]
    exact Stands.finite s _ ⟨by norm_num, by norm_num, by omega, fun _ => le_refl _⟩

theorem log2_shiftLeft {m : ℕ} (hm : 0 < m) (k : ℕ) : (m <<< k).log2 = m.log2 + k := by
  have hpos : 0 < 2 ^ k := Nat.two_pow_pos k
  rw [Nat.shiftLeft_eq, Nat.log2_eq_iff (Nat.mul_pos hm hpos).ne']
  constructor
  · rw [pow_add]
    exact Nat.mul_le_mul_right _ (Nat.log2_self_le hm.ne')
  · rw [add_right_comm, pow_add]
    exact Nat.mul_lt_mul_of_pos_right Nat.lt_log2_self hpos

/-- Lowering the exponent of a number leaves the number as it is. -/
theorem shiftLeft_mul_zpow (m k : ℕ) (e : ℤ) :
    ((m <<< k : ℕ) : ℝ) * 2 ^ (e - k) = m * 2 ^ e := by
  have hsplit : (2 : ℝ) ^ e = 2 ^ k * 2 ^ (e - k) := by
    rw [← zpow_natCast, ← zpow_add₀ two_ne_zero, add_sub_cancel]
  rw [Nat.shiftLeft_eq, hsplit]
  push_cast
  ring

/-- An exact number gets the digits that a double has, and is rounded. -/
theorem round_stands {m : ℕ} (hm : 0 < m) (e : ℤ) (s : Sign) :
    Stands (UnpackedFloat.round Format.binary64 s m e) (signed s (rounded (m * 2 ^ e))) := by
  obtain ⟨k, hk⟩ : ∃ k, (e - max (m.log2 - 52 + e) (-1074)).toNat = k := ⟨_, rfl⟩
  have henough : Enough (m <<< k) (e - k) := by
    rw [Enough, log2_shiftLeft hm]
    omega
  have hexact : Holds (ExtendedMantissa.ofMantissaAndAccuracy (m <<< k) .exact) (m <<< k : ℕ) := rfl
  have hstands := roundWithAccuracy_stands s hexact (le_refl _) (lt_add_one _) henough
  rw [shiftLeft_mul_zpow] at hstands
  have hlower : decreaseExponent m e (max (m.log2 - 52 + e) (-1074)) = (m <<< k, e - k) := by
    rw [decreaseExponent, hk]
  unfold UnpackedFloat.round
  simp only []
  rw [targetExponent_eq, hlower]
  exact hstands

theorem normalize_stands (m e : ℤ) (s : Sign) :
    Stands (UnpackedFloat.normalize Format.binary64 m e s) (rounded (m * 2 ^ e)) := by
  unfold UnpackedFloat.normalize
  rcases lt_trichotomy m 0 with hneg | rfl | hpos
  · obtain ⟨n, hn⟩ := Int.eq_ofNat_of_zero_le (neg_nonneg.2 hneg.le)
    have hstands := round_stands (m := n) (by omega) e .negative
    have hvalue : (m : ℝ) * 2 ^ e = -(n * 2 ^ e) := by
      rw [show m = -(n : ℤ) by omega]
      push_cast
      ring
    rw [compare_lt_iff_lt.2 hneg, hvalue, rounded_neg]
    simp only []
    rw [hn]
    exact hstands
  · rw [compare_eq_iff_eq.2 rfl, Int.cast_zero, zero_mul, rounded_zero]
    exact Stands.zero s
  · obtain ⟨n, rfl⟩ := Int.eq_ofNat_of_zero_le hpos.le
    have hstands := round_stands (m := n) (by omega) e .positive
    rw [compare_gt_iff_gt.2 hpos]
    exact hstands

/-! ## Differences -/

theorem signed_neg (s : Sign) (x : ℝ) : signed (-s) x = -signed s x := by
  cases s with
  | negative => exact (neg_neg x).symm
  | positive => rfl

theorem apply_mul (s : Sign) (n : ℕ) (x : ℝ) : ((s.apply n : ℤ) : ℝ) * x = signed s (n * x) := by
  cases s with
  | negative =>
      have hsign : ((Sign.negative.apply n : ℤ) : ℝ) = -n := by push_cast [Sign.apply]; rfl
      rw [hsign, signed, neg_mul]
  | positive =>
      have hsign : ((Sign.positive.apply n : ℤ) : ℝ) = n := by push_cast [Sign.apply]; rfl
      rw [hsign, signed]

/-- Digits with a sign at a lower exponent. -/
theorem apply_decreaseExponent (s : Sign) (m : ℕ) {e f : ℤ} (h : f ≤ e) :
    ((s.apply ((decreaseExponent m e f).1 : ℕ) : ℤ) : ℝ) * 2 ^ f = signed s (m * 2 ^ e) := by
  have hshift := shiftLeft_mul_zpow m (e - f).toNat e
  rw [show e - (e - f).toNat = f by omega] at hshift
  rw [apply_mul, decreaseExponent, hshift]

theorem sub_stands {u v : UnpackedFloat} {x y : ℝ} (hu : Stands u x) (hv : Stands v y) :
    Stands (UnpackedFloat.sub Format.binary64 u v) (rounded (x - y)) := by
  have hx := rounded_of_representable hu.representable
  have hy := rounded_of_representable hv.representable
  cases hu with
  | zero s =>
      cases hv with
      | zero s' =>
          rw [sub_zero, rounded_zero]
          unfold UnpackedFloat.sub
          simp only []
          split
          · exact Stands.zero _
          · exact Stands.zero _
      | finite s' hm h =>
          rw [zero_sub, rounded_neg, hy, ← signed_neg]
          exact Stands.finite _ hm h
  | @finite s m e hm h =>
      cases hv with
      | zero s' =>
          rw [sub_zero, hx]
          exact Stands.finite s hm h
      | @finite s' m' e' hm' h' =>
          have hnormal := normalize_stands (s.apply ((decreaseExponent m e (min e e')).1 : ℕ)
            - s'.apply ((decreaseExponent m' e' (min e e')).1 : ℕ)) (min e e') .positive
          rw [Int.cast_sub, sub_mul, apply_decreaseExponent s m (min_le_left e e'),
            apply_decreaseExponent s' m' (min_le_right e e')] at hnormal
          exact hnormal

/-! ## Quotients -/

theorem holds_div (num : ℕ) {den : ℕ} (hden : 0 < den) :
    Holds (ExtendedMantissa.ofMantissaAndAccuracy (num / den) (accuracyOfFraction (num % den) den))
      (num / den : ℝ) := by
  have hone := natCast_mod_div_lt_one num hden
  rw [natCast_div_eq num hden]
  unfold accuracyOfFraction
  generalize num % den = r at *
  split
  · next hzero =>
      rw [hzero, Nat.cast_zero, zero_div, add_zero]
      exact rfl
  · next hne =>
      have hpos : (0 : ℝ) < r / den :=
        div_pos (by exact_mod_cast Nat.pos_of_ne_zero hne) (by exact_mod_cast hden)
      rcases lt_trichotomy (2 * r) den with hlt | heq | hgt
      · have hhalf := (natCast_div_lt_half_iff r hden).2 hlt
        have hlow : ((num / den : ℕ) : ℝ) < (num / den : ℕ) + r / den := by linarith
        have hhigh : ((num / den : ℕ) : ℝ) + r / den < (num / den : ℕ) + 1 / 2 := by linarith
        rw [compare_lt_iff_lt.2 hlt]
        exact ⟨hlow, hhigh⟩
      · rw [compare_eq_iff_eq.2 heq, natCast_div_eq_half hden heq]
        exact rfl
      · have hhalf := (half_lt_natCast_div_iff r hden).2 hgt
        have hlow : ((num / den : ℕ) : ℝ) + 1 / 2 < (num / den : ℕ) + r / den := by linarith
        have hhigh : ((num / den : ℕ) : ℝ) + r / den < (num / den : ℕ) + 1 := by linarith
        rw [compare_gt_iff_gt.2 hgt]
        exact ⟨hlow, hhigh⟩

theorem signed_div (s s' : Sign) (x y : ℝ) :
    signed s x / signed s' y = signed (s / s') (x / y) := by
  cases s with
  | negative =>
      cases s' with
      | negative => exact neg_div_neg_eq x y
      | positive => exact neg_div y x
  | positive =>
      cases s' with
      | negative => exact div_neg x
      | positive => rfl

/-- The quotient is shifted until it has digits enough. -/
theorem enough_div {m m' k : ℕ} {p : ℤ} (hm : 0 < m) (hm' : 0 < m')
    (hshift : m'.log2 + 53 ≤ m.log2 + k ∨ p ≤ -1074) : Enough (m <<< k / m') p := by
  rcases hshift with hdigits | hleast
  · left
    have hlow : 2 ^ (m.log2 + k) ≤ m <<< k := by
      rw [← log2_shiftLeft hm]
      exact Nat.log2_self_le (by rw [Nat.shiftLeft_eq]; positivity)
    have hquotient : 2 ^ 52 ≤ m <<< k / m' := by
      rw [Nat.le_div_iff_mul_le hm']
      calc 2 ^ 52 * m' ≤ 2 ^ 52 * 2 ^ (m'.log2 + 1) := Nat.mul_le_mul_left _ Nat.lt_log2_self.le
        _ = 2 ^ (m'.log2 + 53) := by rw [← pow_add]; congr 1; omega
        _ ≤ 2 ^ (m.log2 + k) := Nat.pow_le_pow_right two_pos hdigits
        _ ≤ m <<< k := hlow
    exact (Nat.le_log2 (by omega)).2 hquotient
  · exact Or.inr hleast

theorem divCore_stands {m m' : ℕ} {e e' : ℤ} (hm : 0 < m) (hm' : 0 < m') (s : Sign) :
    Stands (roundWithAccuracy Format.binary64 s (divCore Format.binary64 m e m' e').1
        (divCore Format.binary64 m e m' e').2.1 (divCore Format.binary64 m e m' e').2.2)
      (signed s (rounded (m * 2 ^ e / (m' * 2 ^ e')))) := by
  have htarget : Format.binary64.targetExponent (totalExponent m e - totalExponent m' e')
      = max (m.log2 + e - (m'.log2 + e') - 53) (-1074) := by
    have hbits : (Format.binary64.mantissaBits : ℤ) = 53 := rfl
    have hleast : Format.binary64.minExponent = -1074 := rfl
    rw [Format.targetExponent, totalExponent, totalExponent, hbits, hleast]
    omega
  obtain ⟨p, hp⟩ : ∃ p, min (e - e') (max (m.log2 + e - (m'.log2 + e') - 53) (-1074)) = p :=
    ⟨_, rfl⟩
  obtain ⟨k, hk⟩ : ∃ k, (e - e' - p).toNat = k := ⟨_, rfl⟩
  have hcore : divCore Format.binary64 m e m' e'
      = (m <<< k / m', p, accuracyOfFraction (m <<< k % m') m') := by
    rw [divCore, htarget, hp, hk]
  have henough : Enough (m <<< k / m') p := enough_div hm hm' (by omega)
  have hvalue : ((m <<< k : ℕ) : ℝ) / m' * 2 ^ p = m * 2 ^ e / (m' * 2 ^ e') := by
    have hexponent : p = e - k - e' := by omega
    rw [hexponent, zpow_sub₀ two_ne_zero, div_mul_div_comm, shiftLeft_mul_zpow]
  have hle : ((m <<< k / m' : ℕ) : ℝ) ≤ (m <<< k : ℕ) / m' := Nat.cast_div_le
  have hlt : ((m <<< k : ℕ) : ℝ) / m' < (m <<< k / m' : ℕ) + 1 := by
    have hone := natCast_mod_div_lt_one (m <<< k) hm'
    rw [natCast_div_eq (m <<< k) hm']
    linarith
  rw [hcore, ← hvalue]
  exact roundWithAccuracy_stands s (holds_div (m <<< k) hm') hle hlt henough

theorem div_stands {u v : UnpackedFloat} {x y : ℝ} (hu : Stands u x) (hv : Stands v y)
    (hy : y ≠ 0) : Stands (UnpackedFloat.div Format.binary64 u v) (rounded (x / y)) := by
  cases hv with
  | zero s' => exact absurd rfl hy
  | @finite s' m' e' hm' h' =>
      cases hu with
      | zero s =>
          rw [zero_div, rounded_zero]
          exact Stands.zero _
      | @finite s m e hm h =>
          rw [signed_div, rounded_signed]
          exact divCore_stands hm hm' (s / s')

/-! ## Comparisons -/

/-- A higher exponent makes a greater number, because the digits are full then. -/
theorem Canonical.lt_of_exponent_lt {m m' : ℕ} {e e' : ℤ} (h : Canonical m e)
    (h' : Canonical m' e') (hlt : e < e') : (m : ℝ) * 2 ^ e < m' * 2 ^ e' := by
  have hbelow : (m : ℝ) * 2 ^ e < 2 ^ (53 : ℤ) * 2 ^ e :=
    mul_lt_mul_of_pos_right (by exact_mod_cast h.lt) (two_zpow_pos e)
  have habove : (2 : ℝ) ^ (52 : ℤ) * 2 ^ e' ≤ m' * 2 ^ e' :=
    mul_le_mul_of_nonneg_right (by exact_mod_cast h'.full (lt_of_le_of_lt h.least hlt))
      (two_zpow_pos e').le
  rw [← zpow_add₀ two_ne_zero] at hbelow habove
  exact hbelow.trans_le (le_trans (zpow_le_zpow_right₀ one_le_two (by omega)) habove)

theorem Canonical.value_pos {m : ℕ} {e : ℤ} (h : Canonical m e) : (0 : ℝ) < m * 2 ^ e :=
  mul_pos (by exact_mod_cast h.pos) (two_zpow_pos e)

theorem compare_canonical {m m' : ℕ} {e e' : ℤ} (h : Canonical m e) (h' : Canonical m' e') :
    (compare e e').then (compare m m') = compare ((m : ℝ) * 2 ^ e) (m' * 2 ^ e') := by
  rcases lt_trichotomy e e' with hlt | rfl | hgt
  · rw [compare_lt_iff_lt.2 hlt, compare_lt_iff_lt.2 (h.lt_of_exponent_lt h' hlt)]
    rfl
  · have hscale := two_zpow_pos e
    rw [compare_eq_iff_eq.2 rfl]
    rcases lt_trichotomy m m' with hlt | rfl | hgt
    · have hvalue : (m : ℝ) * 2 ^ e < m' * 2 ^ e :=
        mul_lt_mul_of_pos_right (by exact_mod_cast hlt) hscale
      rw [compare_lt_iff_lt.2 hlt, compare_lt_iff_lt.2 hvalue]
      rfl
    · rw [compare_eq_iff_eq.2 rfl, compare_eq_iff_eq.2 rfl]
      rfl
    · have hvalue : (m' : ℝ) * 2 ^ e < m * 2 ^ e :=
        mul_lt_mul_of_pos_right (by exact_mod_cast hgt) hscale
      rw [compare_gt_iff_gt.2 hgt, compare_gt_iff_gt.2 hvalue]
      rfl
  · rw [compare_gt_iff_gt.2 hgt, compare_gt_iff_gt.2 (h'.lt_of_exponent_lt h hgt)]
    rfl

/-- Doubles compare like the numbers that they stand for. -/
theorem lt_stands {u v : UnpackedFloat} {x y : ℝ} (hu : Stands u x) (hv : Stands v y) :
    UnpackedFloat.lt u v = true ↔ x < y := by
  unfold UnpackedFloat.lt
  rw [beq_iff_eq]
  cases hu with
  | zero s =>
      cases hv with
      | zero s' => exact iff_of_false (by simp [UnpackedFloat.compare]) (lt_irrefl _)
      | finite s' hm' h' =>
          have hpos' := h'.value_pos
          cases s' with
          | negative =>
              exact iff_of_false (by simp [UnpackedFloat.compare]) (by simp only [signed]; linarith)
          | positive => exact iff_of_true rfl hpos'
  | @finite s m e hm h =>
      have hpos := h.value_pos
      cases hv with
      | zero s' =>
          cases s with
          | negative => exact iff_of_true rfl (neg_lt_zero.2 hpos)
          | positive =>
              exact iff_of_false (by simp [UnpackedFloat.compare]) (by simp only [signed]; linarith)
      | @finite s' m' e' hm' h' =>
          have hpos' := h'.value_pos
          cases s with
          | negative =>
              cases s' with
              | negative =>
                  simp only [UnpackedFloat.compare, compare_canonical h h', signed,
                    Option.some.injEq, neg_lt_neg_iff]
                  rw [Ordering.swap_eq_lt]
                  exact compare_gt_iff_gt
              | positive =>
                  exact iff_of_true rfl (by simp only [signed]; linarith)
          | positive =>
              cases s' with
              | negative =>
                  exact iff_of_false (by simp [UnpackedFloat.compare])
                    (by simp only [signed]; linarith)
              | positive =>
                  simp only [UnpackedFloat.compare, compare_canonical h h', signed,
                    Option.some.injEq]
                  exact compare_lt_iff_lt

end TagCloud.Number
