import TagCloud.Proofs.Number.Rounded
import TagCloud.Proofs.Number.Word

/-!
# Doubles are rounded numbers

Doubles keep the laws of rounded numbers: their differences and quotients are the exact ones,
rounded to the nearest double, and so is a whole number that is taken over, which this library
rounds itself.
Only the logarithm stays unknown.
-/

namespace TagCloud.Number

open Float.Model Float.Model.UnpackedFloat

theorem datumOf_stands {u : UnpackedFloat} {x : ℝ} (h : Stands u x) :
    (datumOf u).IsFinite ∧ (datumOf u).value = x := by
  cases h with
  | zero s => cases s <;> simp [datumOf, Datum.IsFinite, Datum.value]
  | finite s hm h => cases s <;> exact ⟨trivial, rfl⟩

theorem Canonical.lt_of_le {m : ℕ} {e : ℤ} (h : Canonical m e) (hle : e ≤ 971) :
    (m : ℝ) * 2 ^ e < 2 ^ (1024 : ℤ) := by
  have hdigits : (m : ℝ) * 2 ^ e < 2 ^ (53 : ℤ) * 2 ^ e :=
    mul_lt_mul_of_pos_right (by exact_mod_cast h.lt) (two_zpow_pos e)
  rw [← zpow_add₀ two_ne_zero] at hdigits
  exact hdigits.trans_le (zpow_le_zpow_right₀ one_le_two (by omega))

/-- A word that holds a number, taken apart. -/
theorem stands_of_ofWord {b : BitVec Format.binary64.numBits}
    (h : (Datum.ofWord b.toNat).IsFinite) :
    Stands (UnpackedFloat.unpack Format.binary64 b) (Datum.ofWord b.toNat).value
      ∧ |(Datum.ofWord b.toNat).value| < 2 ^ (1024 : ℤ) := by
  have hword := ofWord_toNat b
  generalize UnpackedFloat.unpack Format.binary64 b = u at *
  rw [hword] at h ⊢
  cases u with
  | infinity s => exact absurd h (by simp [datumOf, Datum.IsFinite])
  | notANumber => exact absurd h (by simp [datumOf, Datum.IsFinite])
  | zero s =>
      have hstands := Stands.zero s
      rw [(datumOf_stands hstands).2, abs_zero]
      exact ⟨hstands, two_zpow_pos _⟩
  | finite s m e hm =>
      obtain ⟨hcanonical, hle⟩ := ofWord_eq_finite hword hm
      have hstands := Stands.finite s hm hcanonical
      rw [(datumOf_stands hstands).2, abs_signed s hcanonical.value_pos.le]
      exact ⟨hstands, hcanonical.lt_of_le hle⟩

/-- A double that is a number, taken apart. -/
theorem stands_of_isFinite {x : Float} (h : (Datum.ofFloat x).IsFinite) :
    Stands x.toModel.unpack (Datum.ofFloat x).value
      ∧ |(Datum.ofFloat x).value| < 2 ^ (1024 : ℤ) :=
  stands_of_ofWord (b := x.toModel.toBits.toBitVec) h

theorem ofFloat_pack {u : UnpackedFloat} {x : ℝ} (h : Stands u x)
    (hrange : |x| < 2 ^ (1024 : ℤ)) : Datum.ofFloat (.ofModel (.pack u)) = datumOf u := by
  have hread := ofWord_toNat (UnpackedFloat.pack Format.binary64 u)
  rw [unpack_pack h hrange] at hread
  exact hread

/-- A number in range, put into a double. -/
theorem isFinite_pack {u : UnpackedFloat} {x : ℝ} (h : Stands u x)
    (hrange : |x| < 2 ^ (1024 : ℤ)) :
    (Datum.ofFloat (.ofModel (.pack u))).IsFinite
      ∧ (Datum.ofFloat (.ofModel (.pack u))).value = x := by
  rw [ofFloat_pack h hrange]
  exact datumOf_stands h

theorem abs_rounded_le {x z : ℝ} (hz : rounded z = z) (hle : |x| ≤ z) : |rounded x| ≤ z := by
  rw [abs_le] at hle ⊢
  have hlow := rounded_mono hle.1
  have hhigh := rounded_mono hle.2
  rw [rounded_neg, hz] at hlow
  rw [hz] at hhigh
  exact ⟨hlow, hhigh⟩

/-- A rounded number that some double reaches, put into a double. -/
theorem isFinite_pack_rounded {u : UnpackedFloat} {x : ℝ} {z : Float} (h : Stands u (rounded x))
    (hz : (Datum.ofFloat z).IsFinite) (hle : |x| ≤ (Datum.ofFloat z).value) :
    (Datum.ofFloat (.ofModel (.pack u))).IsFinite
      ∧ (Datum.ofFloat (.ofModel (.pack u))).value = rounded x := by
  obtain ⟨hstands, hrange⟩ := stands_of_isFinite hz
  have hbound := abs_rounded_le (rounded_of_representable hstands.representable) hle
  exact isFinite_pack h (hbound.trans_lt ((le_abs_self _).trans_lt hrange))

/-! ## Whole numbers -/

theorem lastPlace_natCast {n : ℕ} (hn : 0 < n) : lastPlace n = n.log2 - 52 := by
  have hpos : (0 : ℝ) < (n <<< 52 : ℕ) := by
    rw [Nat.shiftLeft_eq]
    positivity
  have hplace := lastPlace_eq (m := n <<< 52) (e := 0 - (52 : ℕ)) (t := (n <<< 52 : ℕ))
    (Or.inl (by rw [log2_shiftLeft hn]; omega)) hpos (le_refl _) (lt_add_one _)
  rw [shiftLeft_mul_zpow, zpow_zero, mul_one, log2_shiftLeft hn] at hplace
  rw [hplace]
  push_cast
  omega

/-- The scale of a whole number is its last place. -/
theorem scaleOf_one {n : ℕ} (hn : 0 < n) : scaleOf n 1 = n.log2 - 52 := by
  have hself := Nat.log2_self_le hn.ne'
  have hguess : Int.ofNat n.log2 - Int.ofNat (Nat.log2 1) - 52 = (n.log2 : ℤ) - 52 := by
    have hone : Nat.log2 1 = 0 := rfl
    rw [hone]
    simp
  unfold scaleOf
  simp only [hguess, Nat.pow_eq, one_mul]
  by_cases hscale : 0 ≤ (n.log2 : ℤ) - 52
  · have hpow : 2 ^ ((n.log2 : ℤ) - 52).toNat * 2 ^ 52 = 2 ^ n.log2 := by
      rw [← pow_add]
      congr 1
      omega
    rw [if_pos hscale]
    simp only []
    rw [hpow, if_neg (by omega)]
    omega
  · have hpow : 2 ^ 52 ≤ n * 2 ^ (-((n.log2 : ℤ) - 52)).toNat := by
      calc 2 ^ 52 = 2 ^ n.log2 * 2 ^ (-((n.log2 : ℤ) - 52)).toNat := by
            rw [← pow_add]
            congr 1
            omega
        _ ≤ n * 2 ^ (-((n.log2 : ℤ) - 52)).toNat := Nat.mul_le_mul_right _ hself
    rw [if_neg hscale]
    simp only [one_mul]
    rw [if_neg (by omega)]
    omega

theorem two_pow_toNat {e : ℤ} (h : 0 ≤ e) : ((2 ^ e.toNat : ℕ) : ℝ) = 2 ^ e := by
  push_cast
  rw [← zpow_natCast, Int.toNat_of_nonneg h]

/-- A quotient by a power of two, rounded. -/
theorem nearestEven_scale (n : ℕ) (scale : ℤ) :
    nearestEven (n / 2 ^ scale)
      = (if 0 ≤ scale then roundHalfEven n (1 * Nat.pow 2 scale.toNat)
        else roundHalfEven (n * Nat.pow 2 (-scale).toNat) 1 : ℕ) := by
  split
  · next hscale =>
      rw [← nearestEven_div n (by simp), one_mul, Nat.pow_eq, two_pow_toNat hscale]
  · next hscale =>
      rw [← nearestEven_div _ one_pos, Nat.cast_one, div_one, Nat.cast_mul, Nat.pow_eq,
        two_pow_toNat (by omega), zpow_neg, div_eq_mul_inv]

/-- The word of digits that may have run over. -/
theorem ofWord_digits {field q : ℕ} (hfull : 2 ^ 52 ≤ q) (hle : q ≤ 2 ^ 53)
    (hrange : field * 2 ^ 52 + q < infinityWord) :
    (Datum.ofWord (field * 2 ^ 52 + q)).IsFinite
      ∧ (Datum.ofWord (field * 2 ^ 52 + q)).value = q * 2 ^ ((field : ℤ) - 1074) := by
  have hinfinity : infinityWord = 2047 * 2 ^ 52 := rfl
  have hsign : (field * 2 ^ 52 + q) / 2 ^ 63 % 2 = 0 := by omega
  unfold Datum.ofWord
  simp only [Nat.pow_eq, hsign]
  rcases lt_or_eq_of_le hle with hlt | rfl
  · have hfield : (field * 2 ^ 52 + q) / 2 ^ 52 % 2 ^ 11 = field + 1 := by omega
    have hfraction : (field * 2 ^ 52 + q) % 2 ^ 52 = q - 2 ^ 52 := by omega
    rw [hfield, hfraction, if_neg (by omega), if_neg (by omega)]
    refine ⟨trivial, ?_⟩
    have hdigits : 2 ^ 52 + (q - 2 ^ 52) = q := by omega
    have hexponent : Int.ofNat (field + 1) - 1075 = (field : ℤ) - 1074 := by
      rw [Int.ofNat_eq_natCast]
      omega
    rw [hdigits, hexponent]
    rfl
  · have hfield : (field * 2 ^ 52 + 2 ^ 53) / 2 ^ 52 % 2 ^ 11 = field + 2 := by omega
    have hfraction : (field * 2 ^ 52 + 2 ^ 53) % 2 ^ 52 = 0 := by omega
    rw [hfield, hfraction, if_neg (by omega), if_neg (by omega)]
    refine ⟨trivial, ?_⟩
    have hexponent : Int.ofNat (field + 2) - 1075 = (field : ℤ) - 1074 + 1 := by
      rw [Int.ofNat_eq_natCast]
      omega
    have hpositive : ((0 : ℕ) == 1) = false := rfl
    rw [hexponent, hpositive, Datum.value, zpow_add_one₀ two_ne_zero, if_neg Bool.false_ne_true]
    push_cast
    ring

/-- A word below the infinity, put into a double. -/
theorem ofFloat_ofWord {w : ℕ} (hrange : w < infinityWord) (h : (Datum.ofWord w).IsFinite) :
    Datum.ofFloat (ofWord false w) = Datum.ofWord w := by
  have hinfinity : infinityWord = 2047 * 2 ^ 52 := rfl
  have hword : (UInt64.ofNat w).toBitVec.toNat = w := by
    rw [UInt64.toNat_toBitVec, UInt64.toNat_ofNat', Nat.mod_eq_of_lt (by omega)]
  have hfloat : ofWord false w
      = .ofModel (.pack (UnpackedFloat.unpack .binary64 (UInt64.ofNat w).toBitVec)) := rfl
  have hread := ofWord_toNat (UInt64.ofNat w).toBitVec
  rw [← hword] at h
  obtain ⟨hstands, hbound⟩ := stands_of_ofWord h
  rw [hfloat, ofFloat_pack hstands hbound, ← hread, hword]

/-- The word of a whole number holds its rounded digits behind the exponent. -/
theorem nearestWord_one {n : ℕ} (hn : 0 < n) :
    ∃ q : ℕ, (q : ℤ) = nearestEven (n / 2 ^ lastPlace n)
      ∧ nearestWord n 1 = min infinityWord ((lastPlace n + 1074).toNat * 2 ^ 52 + q) := by
  have hscale : scaleOf n 1 = lastPlace n := by rw [scaleOf_one hn, lastPlace_natCast hn]
  refine ⟨_, (nearestEven_scale n (lastPlace n)).symm, ?_⟩
  unfold nearestWord
  simp only [if_neg hn.ne', hscale, Nat.pow_eq]

theorem datum_nearestWord {n : ℕ} (hrange : nearestWord n 1 < infinityWord) :
    (Datum.ofWord (nearestWord n 1)).IsFinite
      ∧ (Datum.ofWord (nearestWord n 1)).value = rounded n := by
  rcases Nat.eq_zero_or_pos n with rfl | hn
  · have hdatum : Datum.ofWord (nearestWord 0 1) = .finite false 0 (-1074) := by decide +kernel
    rw [hdatum, Nat.cast_zero, rounded_zero]
    exact ⟨trivial, by simp [Datum.value]⟩
  · obtain ⟨q, hq, hword⟩ := nearestWord_one hn
    have hpos : (0 : ℝ) < n := by exact_mod_cast hn
    have hplace : -1074 < lastPlace n := by
      rw [lastPlace_natCast hn]
      omega
    have hfull := le_nearestEven_of_lastPlace hpos hplace
    have hle := nearestEven_le_of_lastPlace hpos
    have hinner : nearestWord n 1 = (lastPlace n + 1074).toNat * 2 ^ 52 + q := by omega
    rw [hinner] at hrange ⊢
    have hdigits := ofWord_digits (by omega) (by omega) hrange
    have hexponent : ((lastPlace n + 1074).toNat : ℤ) - 1074 = lastPlace n := by omega
    have hvalue : (nearestEven (n / 2 ^ lastPlace n) : ℝ) = q := by exact_mod_cast hq.symm
    rw [hexponent] at hdigits
    rw [rounded, hvalue]
    exact hdigits

/-- A whole number that is taken over is rounded. -/
theorem ofInt?_natCast {n : ℕ} {x : Float} (h : ofInt? n = some x) :
    (Datum.ofFloat x).IsFinite ∧ (Datum.ofFloat x).value = rounded n := by
  have hpositive : decide ((n : ℤ) < 0) = false := by simp
  unfold ofInt? at h
  simp only [Int.natAbs_natCast, hpositive] at h
  split at h
  · next hrange =>
      simp only [Option.some.injEq] at h
      have hdatum := datum_nearestWord hrange
      rw [← h, ofFloat_ofWord hrange hdatum.1]
      exact hdatum
  · exact absurd h (by simp)

/-! ## The laws -/

theorem less_iff_lt (x y : Float) :
    Magnitude.less x y = true ↔ UnpackedFloat.lt x.toModel.unpack y.toModel.unpack = true := by
  have hfloat : Magnitude.less x y = decide (x < y) := rfl
  have hmodel : x < y ↔ decide (x.toModel < y.toModel) = true := Iff.rfl
  rw [hfloat, decide_eq_true_iff, hmodel, decide_eq_true_iff]
  exact Iff.rfl

theorem datum_zero : (Datum.ofFloat 0).IsFinite ∧ (Datum.ofFloat 0).value = 0 := by
  have hdatum : Datum.ofFloat 0 = .finite false 0 (-1074) := by decide +kernel
  rw [hdatum]
  exact ⟨trivial, by norm_num [Datum.value]⟩

theorem datum_half : Datum.ofFloat Magnitude.half = .finite false (2 ^ 52) (-53) := by
  show Datum.ofFloat 0.5 = .finite false (2 ^ 52) (-53)
  decide +kernel

theorem isFinite_half : (Datum.ofFloat Magnitude.half).IsFinite := by
  rw [datum_half]
  exact trivial

theorem value_half : (Datum.ofFloat Magnitude.half).value = 1 / 2 := by
  rw [datum_half]
  norm_num [Datum.value]

theorem datum_one : (Datum.ofFloat 1).IsFinite ∧ (Datum.ofFloat 1).value = 1 := by
  have hdatum : Datum.ofFloat 1 = .finite false (2 ^ 52) (-52) := by decide +kernel
  rw [hdatum]
  exact ⟨trivial, by norm_num [Datum.value]⟩

noncomputable instance : Rounded Float where
  IsFinite x := (Datum.ofFloat x).IsFinite
  value x := (Datum.ofFloat x).value
  nearest := rounded
  nearest_mono := rounded_mono
  nearest_value hx := rounded_of_representable (stands_of_isFinite hx).1.representable
  nearest_sub_pos hx hy hlt := rounded_sub_pos (stands_of_isFinite hx).1.representable
    (stands_of_isFinite hy).1.representable hlt
  less_iff {x y} hx hy :=
    (less_iff_lt x y).trans (lt_stands (stands_of_isFinite hx).1 (stands_of_isFinite hy).1)
  sub hx hy hz hle :=
    isFinite_pack_rounded (sub_stands (stands_of_isFinite hx).1 (stands_of_isFinite hy).1) hz hle
  div hx hy hne hz hle :=
    isFinite_pack_rounded
      (div_stands (stands_of_isFinite hx).1 (stands_of_isFinite hy).1 hne) hz hle
  finite_half := isFinite_half
  value_half := value_half
  ofInt := ofInt?_natCast
  exists_zero := ⟨0, datum_zero⟩
  exists_one := ⟨1, datum_one⟩

theorem value_nonneg_of_less {x : Float} (hx : Rounded.IsFinite x)
    (hless : Magnitude.less x 0 = false) : 0 ≤ Rounded.value x := by
  have hzero : Rounded.IsFinite (0 : Float) ∧ Rounded.value (0 : Float) = 0 := datum_zero
  rw [← hzero.2, ← not_lt, ← Rounded.less_iff hx hzero.1, hless]
  exact Bool.false_ne_true

end TagCloud.Number
