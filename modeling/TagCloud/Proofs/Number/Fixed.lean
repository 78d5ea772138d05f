import TagCloud.Number.Fixed
import TagCloud.Proofs.Text.Span

/-!
# The characters of fixed-point text

A number with a fixed number of places is written with digits, a point and a sign, and with letters
when it is no finite number. Nothing else is ever in such a text, whatever the number is; so it can
stand between quotes.
-/

namespace TagCloud.Number

/-- A character that the text of a number may hold. -/
def IsNumeric (c : Char) : Prop :=
  c.isDigit = true ∨ c.isAlpha = true ∨ c = '.' ∨ c = '-'

theorem isNumeric_zero : IsNumeric '0' :=
  Or.inl (by decide)

theorem isDigit_of_mem_padded {width n : Nat} {c : Char} (h : c ∈ padded width n) :
    c.isDigit = true := by
  rcases List.mem_append.1 h with hzero | hdigit
  · rw [List.eq_of_mem_replicate hzero]
    decide
  · exact Nat.isDigit_of_mem_toDigits (by decide) (by decide) hdigit

theorem lt_length_padded (places n : Nat) : places < (padded (places + 1) n).length := by
  rw [padded, List.length_append, List.length_replicate]
  omega

theorem isNumeric_of_mem_padded {width n : Nat} {c : Char} (h : c ∈ padded width n) :
    IsNumeric c :=
  Or.inl (isDigit_of_mem_padded h)

theorem isNumeric_of_mem_fixedDigits {places scaled : Nat} {c : Char}
    (h : c ∈ fixedDigits places scaled) : IsNumeric c := by
  unfold fixedDigits at h
  simp only [] at h
  split at h
  · exact isNumeric_of_mem_padded h
  · rcases List.mem_append.1 h with hfront | hback
    · exact isNumeric_of_mem_padded (List.mem_of_mem_take hfront)
    · rcases List.mem_cons.1 hback with rfl | hplaces
      · exact Or.inr (Or.inr (Or.inl rfl))
      · exact isNumeric_of_mem_padded (List.mem_of_mem_drop hplaces)

theorem isNumeric_of_mem_fixedPlaces {places num den : Nat} {c : Char}
    (h : c ∈ fixedPlaces places num den) : IsNumeric c := by
  unfold fixedPlaces fixedFraction at h
  rcases List.mem_append.1 h with hdigit | hzero
  · exact isNumeric_of_mem_fixedDigits hdigit
  · rw [List.eq_of_mem_replicate hzero]
    exact isNumeric_zero

theorem isAlpha_of_mem_inf : ∀ c ∈ "inf".toList, c.isAlpha = true := by
  decide

theorem isNumeric_of_mem_negative_inf :
    ∀ c ∈ "-inf".toList, c.isDigit = true ∨ c.isAlpha = true ∨ c = '.' ∨ c = '-' := by
  decide

theorem isAlpha_of_mem_nan : ∀ c ∈ "nan".toList, c.isAlpha = true := by
  decide

theorem Datum.isNumeric_of_mem_fixed {places : Nat} {d : Datum} {c : Char}
    (h : c ∈ (d.fixed places).toList) : IsNumeric c := by
  cases d with
  | finite negative significand exponent =>
      simp only [Datum.fixed, String.toList_ofList] at h
      split at h
      · rcases List.mem_cons.1 h with rfl | h
        · exact Or.inr (Or.inr (Or.inr rfl))
        · exact isNumeric_of_mem_fixedPlaces h
      · exact isNumeric_of_mem_fixedPlaces h
  | infinite negative =>
      cases negative with
      | false => exact Or.inr (Or.inl (isAlpha_of_mem_inf c h))
      | true => exact isNumeric_of_mem_negative_inf c h
  | nan => exact Or.inr (Or.inl (isAlpha_of_mem_nan c h))

/-- The text of a double holds nothing but numeric characters. -/
theorem isNumeric_of_mem_fixed {places : Nat} {x : Float} {c : Char}
    (h : c ∈ (fixed places x).toList) : IsNumeric c :=
  Datum.isNumeric_of_mem_fixed h

theorem quote_not_mem_fixed (places : Nat) (x : Float) : '"' ∉ (fixed places x).toList := by
  intro h
  rcases isNumeric_of_mem_fixed h with h | h | h | h
  · exact absurd h (by decide)
  · exact absurd h (by decide)
  · exact absurd h (by decide)
  · exact absurd h (by decide)

end TagCloud.Number
