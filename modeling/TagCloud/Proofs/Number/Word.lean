import TagCloud.Proofs.Number.Unpacked

/-!
# Doubles as words

A double is kept in a word of three fields, a sign, an exponent and digits, of which the first one
is left out where it is known. This library reads the fields by division, the arithmetic of doubles
by cutting out bits; both find the same number. What stands for a number in the range of doubles is
found again in the word that it is put into.
-/

namespace TagCloud.Number

open Float.Model Float.Model.UnpackedFloat

/-! ## The fields of a word -/

section

variable (b : BitVec Format.binary64.numBits)

theorem unpackMantissa_toNat :
    (unpackMantissa b).toNat = b.toNat % 2 ^ 52 := by
  simp [unpackMantissa, BitVec.extractLsb_toNat]

theorem unpackExponent_toNat :
    (unpackExponent b).toNat = b.toNat / 2 ^ 52 % 2 ^ 11 := by
  simp [unpackExponent, BitVec.extractLsb_toNat, Nat.shiftRight_eq_div_pow]

theorem unpackSign_toNat :
    (unpackSign b).toNat = b.toNat / 2 ^ 63 % 2 := by
  simp [unpackSign, BitVec.extractLsb_toNat, Nat.shiftRight_eq_div_pow]

end

/-- What is taken apart, as the library reads it. -/
def datumOf : UnpackedFloat → Datum
  | .infinity s => .infinite (s == .negative)
  | .notANumber => .nan
  | .zero s => .finite (s == .negative) 0 (-1074)
  | .finite s m e _ => .finite (s == .negative) m e

section

variable (b : BitVec Format.binary64.numBits)

theorem unpackExponent_eq_ones :
    unpackExponent b = -1#_ ↔ b.toNat / 2 ^ 52 % 2 ^ 11 = 2047 := by
  rw [← BitVec.toNat_inj, unpackExponent_toNat]
  exact Iff.rfl

theorem unpackExponent_eq_zero :
    unpackExponent b = 0#_ ↔ b.toNat / 2 ^ 52 % 2 ^ 11 = 0 := by
  rw [← BitVec.toNat_inj, unpackExponent_toNat]
  exact Iff.rfl

theorem unpackMantissa_eq_zero : unpackMantissa b = 0#_ ↔ b.toNat % 2 ^ 52 = 0 := by
  rw [← BitVec.toNat_inj, unpackMantissa_toNat]
  exact Iff.rfl

theorem ofBitVec_unpackSign :
    (Sign.ofBitVec (unpackSign b) == .negative) = (b.toNat / 2 ^ 63 % 2 == 1) := by
  have hsign := unpackSign_toNat b
  generalize unpackSign b = v at hsign
  rw [← hsign]
  clear hsign
  revert v
  decide

theorem append_unpackMantissa :
    (1#1 ++ unpackMantissa b).toNat = 2 ^ 52 + b.toNat % 2 ^ 52 := by
  have hlt : b.toNat % 2 ^ 52 < 2 ^ 52 := Nat.mod_lt _ (Nat.two_pow_pos 52)
  rw [BitVec.toNat_append, unpackMantissa_toNat, ← Nat.shiftLeft_add_eq_or_of_lt hlt]
  rfl

end

/-- The library reads a word like the arithmetic does. -/
theorem ofWord_toNat (b : BitVec Format.binary64.numBits) :
    Datum.ofWord b.toNat = datumOf (UnpackedFloat.unpack Format.binary64 b) := by
  unfold Datum.ofWord UnpackedFloat.unpack
  simp only [Nat.pow_eq]
  by_cases hones : b.toNat / 2 ^ 52 % 2 ^ 11 = 2047
  · rw [if_pos hones, if_pos ((unpackExponent_eq_ones b).2 hones)]
    by_cases hfraction : b.toNat % 2 ^ 52 = 0
    · rw [if_pos hfraction, if_pos ((unpackMantissa_eq_zero b).2 hfraction), datumOf,
        ofBitVec_unpackSign]
    · rw [if_neg hfraction, if_neg (mt (unpackMantissa_eq_zero b).1 hfraction), datumOf]
  · rw [if_neg hones, if_neg (mt (unpackExponent_eq_ones b).1 hones)]
    by_cases hzero : b.toNat / 2 ^ 52 % 2 ^ 11 = 0
    · rw [if_pos hzero, if_pos ((unpackExponent_eq_zero b).2 hzero)]
      by_cases hfraction : b.toNat % 2 ^ 52 = 0
      · rw [dif_pos ((unpackMantissa_eq_zero b).2 hfraction), datumOf, ofBitVec_unpackSign,
          hfraction]
      · rw [dif_neg (mt (unpackMantissa_eq_zero b).1 hfraction), datumOf, ofBitVec_unpackSign,
          unpackMantissa_toNat, unpackExponent_toNat, hzero]
        rfl
    · rw [if_neg hzero, if_neg (mt (unpackExponent_eq_zero b).1 hzero), datumOf,
        ofBitVec_unpackSign, append_unpackMantissa, unpackExponent_toNat]
      rfl

/-- What a word holds when it is finite. -/
theorem ofWord_eq_finite {w m : ℕ} {e : ℤ} {negative : Bool}
    (h : Datum.ofWord w = .finite negative m e) (hm : 0 < m) : Canonical m e ∧ e ≤ 971 := by
  unfold Datum.ofWord at h
  simp only [Nat.pow_eq] at h
  have hfraction : w % 2 ^ 52 < 2 ^ 52 := Nat.mod_lt _ (Nat.two_pow_pos 52)
  have hfield : w / 2 ^ 52 % 2 ^ 11 < 2 ^ 11 := Nat.mod_lt _ (Nat.two_pow_pos 11)
  generalize w % 2 ^ 52 = fraction at *
  generalize w / 2 ^ 52 % 2 ^ 11 = field at *
  split at h
  · split at h
    · exact absurd h (by simp)
    · exact absurd h (by simp)
  · split at h
    · simp only [Datum.finite.injEq] at h
      obtain ⟨-, rfl, rfl⟩ := h
      exact ⟨⟨hm, by omega, le_refl _, fun hlt => absurd hlt (lt_irrefl _)⟩, by omega⟩
    · simp only [Datum.finite.injEq, Int.ofNat_eq_natCast] at h
      obtain ⟨-, rfl, rfl⟩ := h
      exact ⟨⟨hm, by omega, by omega, fun _ => by omega⟩, by omega⟩

/-! ## Putting into a word -/

theorem abs_signed (s : Sign) {x : ℝ} (h : 0 ≤ x) : |signed s x| = x := by
  cases s with
  | negative => rw [signed, abs_neg, abs_of_nonneg h]
  | positive => rw [signed, abs_of_nonneg h]

theorem Canonical.le_of_lt {m : ℕ} {e : ℤ} (h : Canonical m e)
    (hrange : (m : ℝ) * 2 ^ e < 2 ^ (1024 : ℤ)) : e ≤ 971 := by
  by_contra hgt
  have hfull : (2 : ℝ) ^ (52 : ℤ) * 2 ^ e ≤ m * 2 ^ e :=
    mul_le_mul_of_nonneg_right (by exact_mod_cast h.full (by omega)) (two_zpow_pos e).le
  rw [← zpow_add₀ two_ne_zero] at hfull
  have hexponent := (zpow_lt_zpow_iff_right₀ one_lt_two).1 (hfull.trans_lt hrange)
  omega

/-- Taking apart what was put together from an exponent and digits behind the first. -/
theorem unpack_packComponents_normal (s : Sign) {m field : ℕ} (hm : 2 ^ 52 ≤ m) (hlt : m < 2 ^ 53)
    (hfield : 0 < field) (hrange : field < 2047) (hpos : 0 < m) :
    UnpackedFloat.unpack Format.binary64
        (packComponents Format.binary64 s (BitVec.ofNat _ field) (BitVec.ofNat _ m))
      = .finite s m (field - 1075) hpos := by
  have hones : ¬ (BitVec.ofNat 11 field = -1#11) := by
    rw [← BitVec.toNat_inj, BitVec.toNat_ofNat, Nat.mod_eq_of_lt (by omega)]
    exact hrange.ne
  have hzero : ¬ (BitVec.ofNat 11 field = 0#11) := by
    rw [← BitVec.toNat_inj, BitVec.toNat_ofNat, Nat.mod_eq_of_lt (by omega)]
    exact hfield.ne'
  have hdigits : (1#1 ++ BitVec.ofNat 52 m).toNat = m := by
    have hrest : (BitVec.ofNat 52 m).toNat < 2 ^ 52 := BitVec.isLt _
    rw [BitVec.toNat_append, ← Nat.shiftLeft_add_eq_or_of_lt hrest, BitVec.toNat_ofNat,
      Nat.shiftLeft_eq, BitVec.toNat_ofNat]
    omega
  have hexponent : (((BitVec.ofNat 11 field).toNat : ℕ) : ℤ) = field := by
    rw [BitVec.toNat_ofNat, Nat.mod_eq_of_lt (by omega)]
  have hbias : ((Format.binary64.exponentBias : ℤ) + (52 : ℕ)) = 1075 := rfl
  unfold UnpackedFloat.unpack
  simp only [unpackExponent_packComponents, unpackMantissa_packComponents,
    unpackSign_packComponents, Sign.ofBitVec_toBitVec]
  rw [if_neg hones, if_neg hzero]
  simp only [hdigits, hexponent, hbias]

theorem unpack_packComponents_least (s : Sign) {m : ℕ} (hlt : m < 2 ^ 52) (hpos : 0 < m) :
    UnpackedFloat.unpack Format.binary64
        (packComponents Format.binary64 s 0#_ (BitVec.ofNat _ m)) = .finite s m (-1074) hpos := by
  have hones : ¬ (0#11 = -1#11) := by decide
  have hdigits : (BitVec.ofNat 52 m).toNat = m := by
    rw [BitVec.toNat_ofNat, Nat.mod_eq_of_lt hlt]
  have hfraction : ¬ (BitVec.ofNat 52 m = 0#52) := by
    rw [← BitVec.toNat_inj, hdigits]
    exact hpos.ne'
  unfold UnpackedFloat.unpack
  simp only [unpackExponent_packComponents, unpackMantissa_packComponents,
    unpackSign_packComponents, Sign.ofBitVec_toBitVec]
  rw [if_neg hones, if_pos trivial, dif_neg hfraction]
  simp only [hdigits]
  rfl

/-- What stands for a number in range is found again in its word. -/
theorem unpack_pack {u : UnpackedFloat} {x : ℝ} (h : Stands u x) (hrange : |x| < 2 ^ (1024 : ℤ)) :
    UnpackedFloat.unpack Format.binary64 (UnpackedFloat.pack Format.binary64 u) = u := by
  cases h with
  | zero s => cases s <;> rfl
  | @finite s m e hm h =>
      rw [abs_signed s (mul_nonneg (Nat.cast_nonneg m) (two_zpow_pos e).le)] at hrange
      have hexponent := h.le_of_lt hrange
      have hleast := h.least
      have hlt := h.lt
      have hbias : (e + Format.binary64.exponentBias + Format.binary64.mantissaBitsWithoutImplicit)
          = e + 1075 := by
        rw [add_assoc]
        rfl
      unfold UnpackedFloat.pack
      simp only [hbias]
      have hroom : ¬ (2 ^ 11 ≤ (e + 1075).toNat + 1) := by omega
      have hbits : Format.binary64.mantissaBits = 53 := rfl
      rw [if_neg hroom, hbits]
      by_cases hfull : 2 ^ 52 ≤ m
      · have hlog : m.log2 = 52 := (Nat.log2_eq_iff hm.ne').2 ⟨hfull, hlt⟩
        rw [hlog, if_pos rfl, unpack_packComponents_normal s hfull hlt (by omega) (by omega) hm]
        congr 1
        omega
      · have hexp : e = -1074 := by
          by_contra hne
          exact hfull (h.full (by omega))
        have hlog : m.log2 < 52 := (Nat.log2_lt hm.ne').2 (by omega)
        rw [if_neg (by omega), unpack_packComponents_least s (by omega) hm]
        congr 1
        exact hexp.symm

end TagCloud.Number
