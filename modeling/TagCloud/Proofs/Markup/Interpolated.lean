import TagCloud.Proofs.Directive.Written
import TagCloud.Proofs.Markup.ReadBack
import TagCloud.Proofs.Number.Real

/-!
# Sizes between two bounds

A directive writes the bounds of its font sizes as numerals, and the sizes come out as numerals
again. Between them lie three things that have to fit together: how many places the longer bound
has, where a weight lies between the bounds, and rounding to so many places. They fit because a
bound has no more places than are written, so that it is not rounded and comes out as it went in,
and because rounding keeps the order, so that everything between the bounds stays there. Without the
rounding of doubles this holds of all numerals, whichever of them is greater.
-/

namespace TagCloud

open TagCloud.Text

variable {places n : ℕ} {x y : ℝ}

/-! ## The numbers of numerals -/

theorem foldl_digits (cs : List Char) (start : ℕ) :
    cs.foldl (fun n c => n * 10 + (digit? c).getD 0) start
      = start * 10 ^ cs.length + number cs := by
  induction cs generalizing start with
  | nil => simp [number]
  | cons c cs ih =>
      rw [number, List.foldl_cons, List.foldl_cons, ih, ih, List.length_cons, pow_succ']
      ring

theorem number_append (front back : List Char) :
    number (front ++ back) = number front * 10 ^ back.length + number back := by
  rw [number, List.foldl_append, foldl_digits]
  rfl

theorem number_zeros (k : ℕ) : number (List.replicate k '0') = 0 := by
  induction k with
  | zero => rfl
  | succ k ih =>
      have hzero : number ['0'] = 0 := by decide
      rw [List.replicate_succ', number_append, ih, hzero, zero_mul]

namespace Numeral

/-- The number that a numeral denotes. -/
noncomputable def value (a : Numeral) : ℝ :=
  number a.whole + number a.fraction / 10 ^ a.fraction.length

theorem value_nonneg (a : Numeral) : 0 ≤ a.value := by
  unfold value
  positivity

theorem value_eq_mantissa (a : Numeral) : a.value = a.mantissa / 10 ^ a.places := by
  rw [value, mantissa, places, number_append]
  push_cast
  field_simp

theorem value_magnitude (a : Numeral) : (a.magnitude : Unrounded).value = a.value := by
  rw [value_eq_mantissa]
  show (a.mantissa : ℝ) / (Nat.pow 10 a.places : ℕ) = a.mantissa / 10 ^ a.places
  rw [Nat.pow_eq, Nat.cast_pow, Nat.cast_ofNat]

/-- A numeral in plain digits, with a digit before its point and no zero there that could be left
out. -/
structure Plain (a : Numeral) : Prop where
  whole : ∀ c ∈ a.whole, c.isDigit = true
  fraction : ∀ c ∈ a.fraction, c.isDigit = true
  some_digit : a.whole ≠ []
  leading : a.whole.head? = some '0' → a.whole = ['0']

/-! ## Numerals with a number of places -/

/-- The numeral of a number of units of the last place. -/
def ofUnits (places n : ℕ) : Numeral :=
  let digits := Number.padded (places + 1) n
  ⟨digits.take (digits.length - places), digits.drop (digits.length - places)⟩

theorem places_ofUnits (places n : ℕ) : (ofUnits places n).places = places := by
  have hlength := Number.lt_length_padded places n
  show ((Number.padded (places + 1) n).drop _).length = places
  rw [List.length_drop]
  omega

theorem length_whole_ofUnits (places n : ℕ) :
    (ofUnits places n).whole.length = (Number.padded (places + 1) n).length - places := by
  show ((Number.padded (places + 1) n).take _).length = _
  rw [List.length_take]
  omega

theorem text_ofUnits (places n : ℕ) : (ofUnits places n).text = Number.fixedDigits places n := by
  have hplaces := places_ofUnits places n
  rw [Numeral.places] at hplaces
  rw [text, Number.fixedDigits]
  simp only [← List.length_eq_zero_iff, hplaces]
  split
  · next hzero =>
      subst hzero
      exact List.take_of_length_le (Nat.le_refl _)
  · rfl

theorem mantissa_ofUnits (places n : ℕ) : (ofUnits places n).mantissa = n := by
  have hwhole : (ofUnits places n).whole ++ (ofUnits places n).fraction
      = Number.padded (places + 1) n := List.take_append_drop _ _
  rw [mantissa, hwhole, Number.padded, number_append, number_zeros, number_toDigits, zero_mul,
    zero_add]

theorem value_ofUnits (places n : ℕ) : (ofUnits places n).value = n / 10 ^ places := by
  rw [value_eq_mantissa, mantissa_ofUnits, places_ofUnits]

theorem head?_toDigits (h : 0 < n) : (Nat.toDigits 10 n).head? ≠ some '0' := by
  induction n using Nat.strong_induction_on with
  | _ n ih =>
    by_cases hn : n < 10
    · have hsmall : ∀ m < 10, 0 < m → [Nat.digitChar m].head? ≠ some '0' := by decide
      rw [Nat.toDigits_of_lt_base hn]
      exact hsmall n hn h
    · rw [Nat.toDigits_of_base_le (by decide) (Nat.le_of_not_lt hn),
        List.head?_append_of_ne_nil _ Nat.toDigits_ne_nil]
      exact ih (n / 10) (by omega) (by omega)

theorem plain_ofUnits (places n : ℕ) : (ofUnits places n).Plain where
  whole := fun _ hc => Number.isDigit_of_mem_padded (List.mem_of_mem_take hc)
  fraction := fun _ hc => Number.isDigit_of_mem_padded (List.mem_of_mem_drop hc)
  some_digit := by
    have hlength := Number.lt_length_padded places n
    rw [← List.length_pos_iff, length_whole_ofUnits]
    omega
  leading := by
    intro hhead
    by_cases hshort : (Nat.toDigits 10 n).length ≤ places + 1
    · -- only one digit is left before the point
      have hone : (ofUnits places n).whole.length = 1 := by
        rw [length_whole_ofUnits, Number.padded, List.length_append, List.length_replicate]
        omega
      obtain ⟨c, hc⟩ := List.length_eq_one_iff.1 hone
      rw [hc] at hhead ⊢
      rw [Option.some.inj hhead]
    · -- nothing is padded, so the first digit is that of the number
      have hpadded : Number.padded (places + 1) n = Nat.toDigits 10 n := by
        have hnone : places + 1 - (Nat.toDigits 10 n).length = 0 := by omega
        rw [Number.padded, hnone]
        rfl
      have hpos : 0 < n := by
        refine Nat.pos_of_ne_zero ?_
        rintro rfl
        exact hshort (by simp [Nat.toDigits_zero])
      have hfirst : (ofUnits places n).whole.head? = (Nat.toDigits 10 n).head? := by
        show ((Number.padded (places + 1) n).take _).head? = _
        rw [hpadded, List.head?_take, if_neg (by omega)]
      exact absurd (hfirst.symm.trans hhead) (head?_toDigits hpos)

/-! ## Rounding to a number of places -/

/-- The numeral with a number of places that is nearest to a number, a half going to the even
neighbour. -/
noncomputable def nearest (places : ℕ) (x : ℝ) : Numeral :=
  ofUnits places (Number.nearestEven (x * 10 ^ places)).toNat

theorem nearest_mono (places : ℕ) (hle : x ≤ y) :
    (nearest places x).value ≤ (nearest places y).value := by
  have hscaled : x * 10 ^ places ≤ y * 10 ^ places :=
    mul_le_mul_of_nonneg_right hle (by positivity)
  have hunits := Int.toNat_le_toNat (Number.nearestEven_mono hscaled)
  rw [nearest, nearest, value_ofUnits, value_ofUnits]
  exact div_le_div_of_nonneg_right (by exact_mod_cast hunits) (by positivity)

/-- A numeral that has no more places is not rounded. -/
theorem value_nearest_value {a : Numeral} (h : a.places ≤ places) :
    (nearest places a.value).value = a.value := by
  have hpow : (10 : ℝ) ^ places = 10 ^ a.places * 10 ^ (places - a.places) := by
    rw [← pow_add, Nat.add_sub_cancel' h]
  have hscaled : a.value * 10 ^ places = ((a.mantissa * 10 ^ (places - a.places) : ℕ) : ℤ) := by
    rw [value_eq_mantissa, hpow]
    push_cast
    field_simp
  rw [nearest, hscaled, Number.nearestEven_intCast, Int.toNat_natCast, value_ofUnits,
    value_eq_mantissa, hpow]
  push_cast
  field_simp

/-- Rounding leaves a number between two numerals that have no more places. -/
theorem value_nearest_mem {a b : Numeral} (ha : a.places ≤ places) (hb : b.places ≤ places)
    (h : x ∈ Set.uIcc a.value b.value) : (nearest places x).value ∈ Set.uIcc a.value b.value := by
  rw [Set.mem_uIcc] at h ⊢
  rcases h with ⟨hlower, hupper⟩ | ⟨hlower, hupper⟩
  · have hlower := nearest_mono places hlower
    have hupper := nearest_mono places hupper
    rw [value_nearest_value ha] at hlower
    rw [value_nearest_value hb] at hupper
    exact Or.inl ⟨hlower, hupper⟩
  · have hlower := nearest_mono places hlower
    have hupper := nearest_mono places hupper
    rw [value_nearest_value hb] at hlower
    rw [value_nearest_value ha] at hupper
    exact Or.inr ⟨hlower, hupper⟩

/-- What is written of a number is the nearest numeral. -/
theorem fixed_unrounded (places : ℕ) (h : 0 ≤ x) :
    Magnitude.fixed places (⟨x⟩ : Unrounded) = String.ofList (nearest places x).text := by
  have hscaled : |x| * (Nat.pow 10 places : ℕ) = x * 10 ^ places := by
    rw [abs_of_nonneg h, Nat.pow_eq, Nat.cast_pow, Nat.cast_ofNat]
  rw [nearest, text_ofUnits, ← hscaled]
  exact congrArg String.ofList (if_neg (not_lt.2 h))

end Numeral

/-! ## Sizes at weights -/

/-- The number at a weight between two bounds. -/
noncomputable def interpolated (least greatest w : ℝ) : ℝ :=
  least + (greatest - least) * w

theorem interpolated_zero (least greatest : ℝ) : interpolated least greatest 0 = least := by
  rw [interpolated, mul_zero, add_zero]

theorem interpolated_one (least greatest : ℝ) : interpolated least greatest 1 = greatest := by
  rw [interpolated, mul_one, add_sub_cancel]

theorem interpolated_mono {least greatest : ℝ} (h : least ≤ greatest) :
    Monotone (interpolated least greatest) := by
  intro w w' hw
  have hpart := mul_le_mul_of_nonneg_left hw (sub_nonneg.2 h)
  exact add_le_add_right hpart least

theorem interpolated_anti {least greatest : ℝ} (h : greatest ≤ least) :
    Antitone (interpolated least greatest) := by
  intro w w' hw
  have hpart := mul_le_mul_of_nonpos_left hw (sub_nonpos.2 h)
  exact add_le_add_right hpart least

/-- A number at a weight between zero and one lies between the bounds. -/
theorem interpolated_mem {least greatest w : ℝ} (hw : w ∈ Set.Icc (0 : ℝ) 1) :
    interpolated least greatest w ∈ Set.uIcc least greatest := by
  rcases le_total least greatest with h | h
  · have hmono := interpolated_mono h
    have hbounds := And.intro (hmono hw.1) (hmono hw.2)
    rw [interpolated_zero, interpolated_one] at hbounds
    rwa [Set.uIcc_of_le h]
  · have hanti := interpolated_anti h
    have hbounds := And.intro (hanti hw.2) (hanti hw.1)
    rw [interpolated_zero, interpolated_one] at hbounds
    rwa [Set.uIcc_of_ge h]

/-- A configuration writes a numeral for the size at a weight: a plain one, with all the places of
the configuration. With more places than the library writes at all there is still the number and
what it would be written as. -/
structure Config.Writes (c : Config Unrounded) (q : Quantity Unrounded) (a : Numeral) : Prop where
  plain : a.Plain
  places : a.places = c.precision
  fixed : ∃ x, c.sizeAt q = .ok (.real x)
    ∧ Magnitude.fixed c.precision x = String.ofList a.text
  text : c.precision ≤ placesLimit → sizeText c q = .ok (String.ofList a.text)

variable {a b : Numeral} {c : Config Unrounded} {q : Quantity Unrounded} {w : ℝ}

/-- The size at a weight is written as the nearest numeral. -/
theorem Config.writes_nearest (hmin : c.sizeMin = .real a.magnitude)
    (hmax : c.sizeMax = .real b.magnitude) (hq : q.magnitude = .ok ⟨w⟩)
    (hw : w ∈ Set.Icc (0 : ℝ) 1) :
    c.Writes q (Numeral.nearest c.precision (interpolated a.value b.value w)) := by
  have hsize : c.sizeAt q = .ok (.real ⟨interpolated a.value b.value w⟩) := by
    rw [Config.sizeAt_real hmin hmax hq, ← Numeral.value_magnitude a, ← Numeral.value_magnitude b]
    rfl
  have hnonneg : 0 ≤ interpolated a.value b.value w :=
    (le_min a.value_nonneg b.value_nonneg).trans (interpolated_mem hw).1
  have hfixed := Numeral.fixed_unrounded c.precision hnonneg
  refine ⟨Numeral.plain_ofUnits _ _, Numeral.places_ofUnits _ _, ⟨_, hsize, hfixed⟩, fun h => ?_⟩
  rw [sizeText, hsize, ← hfixed]
  exact Quantity.written_real h _

/-- The sizes of a directive end where it says. They are written as numerals with as many places as
the longer bound has; at the weight zero the numeral is worth what the first bound is and at the
weight one what the second is, in between it lies between them, and it goes with the weight from the
one to the other. -/
theorem Directive.sizes_between {unit : SizeUnit} {gap₁ gap₂ gap₃ gap₄ : List Char}
    (ha : a.Proper) (hb : b.Proper) (hunit : unit = .percent ∨ unit = .em ∨ unit = .px)
    (h₁ : AllBlank gap₁) (h₂ : AllBlank gap₂) (h₃ : AllBlank gap₃) (h₄ : AllBlank gap₄) :
    ∃ c : Config Unrounded,
      Directive.parse (String.ofList ("font-size:".toList ++ (gap₁ ++ (a.text ++ (gap₂ ++ '-' ::
        (gap₃ ++ (b.text ++ (gap₄ ++ unit.name.toList)))))))) = .ok c
      ∧ c.unit = unit ∧ c.precision = max a.places b.places
      ∧ ∃ size : ℝ → Numeral,
        (∀ q w, q.magnitude = .ok ⟨w⟩ → w ∈ Set.Icc (0 : ℝ) 1 → c.Writes q (size w))
        ∧ (size 0).value = a.value ∧ (size 1).value = b.value
        ∧ (∀ w ∈ Set.Icc (0 : ℝ) 1, (size w).value ∈ Set.uIcc a.value b.value)
        ∧ (a.value ≤ b.value → Monotone fun w => (size w).value)
        ∧ (b.value ≤ a.value → Antitone fun w => (size w).value) := by
  let size : FontSize := ⟨a, b, unit⟩
  let c : Config Unrounded := (Settings.mk (some size) none none none none).config
  let places := max a.places b.places
  have hparse : Directive.parse (String.ofList ("font-size:".toList ++ (gap₁ ++ (a.text ++
      (gap₂ ++ '-' :: (gap₃ ++ (b.text ++ (gap₄ ++ unit.name.toList)))))))) = .ok c := by
    have hfragment : Fragment (some (.fontSize size)) _ :=
      .setting (.fontSize ha hb hunit h₂ h₃ h₄) allBlank_nil allBlank_nil h₁ allBlank_nil
    have hkey : "font-size:".toList = "font-size".toList ++ [':'] := by decide
    rw [hkey]
    simpa [Setting.key] using Directive.parse_fontSize (R := Unrounded) hfragment
  have hleast : a.places ≤ places := le_max_left _ _
  have hgreatest : b.places ≤ places := le_max_right _ _
  refine ⟨c, hparse, rfl, rfl, fun w => .nearest places (interpolated a.value b.value w), ?_, ?_,
    ?_, ?_, ?_, ?_⟩
  · exact fun q w hq hw => Config.writes_nearest rfl rfl hq hw
  · show (Numeral.nearest places (interpolated a.value b.value 0)).value = a.value
    rw [interpolated_zero, Numeral.value_nearest_value hleast]
  · show (Numeral.nearest places (interpolated a.value b.value 1)).value = b.value
    rw [interpolated_one, Numeral.value_nearest_value hgreatest]
  · exact fun w hw => Numeral.value_nearest_mem hleast hgreatest (interpolated_mem hw)
  · exact fun h w w' hw => Numeral.nearest_mono _ (interpolated_mono h hw)
  · exact fun h w w' hw => Numeral.nearest_mono _ (interpolated_anti h hw)

/-- From a greater bound down to a smaller one that has no digit before its point. -/
theorem Directive.sizes_between_descending :
    ∃ c : Config Unrounded, Directive.parse "font-size: 3 - .25em" = .ok c
      ∧ ∃ first last : Numeral, c.Writes (.whole 0) first ∧ c.Writes (.whole 1) last
        ∧ first.places = 2 ∧ first.value = 3 ∧ last.places = 2 ∧ last.value = 1 / 4 := by
  have hblank : AllBlank [' '] := by decide
  obtain ⟨c, hparse, -, hplaces, size, hwrites, hzero, hone, -⟩ :=
    Directive.sizes_between (a := ⟨['3'], []⟩) (b := ⟨[], ['2', '5']⟩)
      ⟨by decide, by decide, by decide⟩ ⟨by decide, by decide, by decide⟩ (Or.inr (Or.inl rfl))
      hblank hblank hblank allBlank_nil
  have hplaces : c.precision = 2 := hplaces
  have hfirst : c.Writes (.whole 0) (size 0) :=
    hwrites _ _ (congrArg Except.ok (congrArg Unrounded.mk Int.cast_zero)) (by simp)
  have hlast : c.Writes (.whole 1) (size 1) :=
    hwrites _ _ (congrArg Except.ok (congrArg Unrounded.mk Int.cast_one)) (by simp)
  have hthree : number ['3'] = 3 := by decide
  have hquarter : number ['2', '5'] = 25 := by decide
  have hnone : number [] = 0 := rfl
  refine ⟨c, hparse, size 0, size 1, hfirst, hlast, hfirst.places.trans hplaces, ?_,
    hlast.places.trans hplaces, ?_⟩
  · rw [hzero, Numeral.value, hthree, hnone]
    norm_num
  · rw [hone, Numeral.value, hquarter, hnone]
    norm_num

end TagCloud
