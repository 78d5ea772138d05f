import Mathlib
import TagCloud.Proofs.Text.Span
import TagCloud.Text.Lower

/-!
# Lower case of plain letters

Beyond ASCII there are letters whose lower-case form is a plain one: the sign for kelvins becomes a
k, and a capital I with a dot becomes an i and a mark. No other letter ends up among the plain ones,
so a text in lower case that is plain and has neither of these two comes from a plain text, whose
letters went down one by one.
-/

namespace TagCloud.Text

variable {before rest cs : List Char} {c d : Char} {s t : String}

/-- A plain character that is the lower-case form of plain characters only. -/
def IsFaithful (d : Char) : Prop :=
  d.toNat < 128 ∧ d ∉ ['\x00', 'i', 'k']

instance (d : Char) : Decidable (IsFaithful d) :=
  inferInstanceAs (Decidable (_ ∧ _))

/-- No run ends among the plain characters but that of the sign for kelvins. -/
theorem caseRuns_shift : ∀ run ∈ caseRuns,
    128 ≤ run.first + run.shift ∨ run.first = run.last ∧ run.first + run.shift = 107 := by
  decide +kernel

theorem not_isFaithful_ofNat {n : Nat} (h : 128 ≤ n ∨ n = 107) : ¬ IsFaithful (Char.ofNat n) := by
  rcases h with h | rfl
  · rw [Char.ofNat]
    split
    · intro hfaithful
      have hplain : n < 128 := hfaithful.1
      omega
    · decide
  · decide

theorem not_isFaithful_shifted (h : 128 ≤ c.toNat) : ¬ IsFaithful (shifted caseRuns c) := by
  rw [shifted]
  split
  · next run hfind =>
      have hhas := List.find?_some hfind
      simp only [CaseRun.has, Bool.and_eq_true, decide_eq_true_eq] at hhas
      apply not_isFaithful_ofNat
      rcases caseRuns_shift run (List.mem_of_find?_eq_some hfind) with hshift | ⟨hone, hshift⟩
      · left
        omega
      · right
        omega
  · exact fun hfaithful => absurd hfaithful.1 (by omega)

/-- Only a plain character has a plain lower-case form, apart from the two that are known. -/
theorem not_isFaithful_of_mem_loweredAt (h : 128 ≤ c.toNat) (hd : d ∈ loweredAt before c rest) :
    ¬ IsFaithful d := by
  have hplain : ¬ c.toNat < 128 := by omega
  rw [loweredAt] at hd
  split at hd
  · obtain rfl := List.mem_singleton.1 hd
    split
    · decide
    · decide
  · rw [lowerChar, if_neg hplain] at hd
    split at hd
    · have hknown : d = 'i' ∨ d = '\u0307' := by simpa using hd
      rcases hknown with rfl | rfl
      · decide
      · decide
    · obtain rfl := List.mem_singleton.1 hd
      exact not_isFaithful_shifted h

theorem loweredAt_ne_nil (before : List Char) (c : Char) (rest : List Char) :
    loweredAt before c rest ≠ [] := by
  rw [loweredAt, lowerChar]
  split
  · simp
  · split
    · simp
    · split
      · simp
      · simp

theorem loweredAt_of_lt (h : c.toNat < 128) : loweredAt before c rest = [c.toLower] := by
  have hsigma : c ≠ 'Σ' := by
    rintro rfl
    exact absurd h (by decide)
  rw [loweredAt, if_neg hsigma, lowerChar, if_pos h]

theorem lowerAfter_of_plain (h : ∀ c ∈ cs, c.toNat < 128) :
    lowerAfter before cs = cs.map Char.toLower := by
  induction cs generalizing before with
  | nil => rfl
  | cons c cs ih =>
      rw [lowerAfter, loweredAt_of_lt (h c List.mem_cons_self),
        ih fun d hd => h d (List.mem_cons_of_mem c hd)]
      rfl

theorem plain_of_lowerAfter (h : ∀ d ∈ lowerAfter before cs, IsFaithful d) :
    ∀ c ∈ cs, c.toNat < 128 := by
  induction cs generalizing before with
  | nil => exact fun c hc => absurd hc (by simp)
  | cons c cs ih =>
      rw [lowerAfter] at h
      intro d hd
      rcases List.mem_cons.1 hd with rfl | hd
      · obtain ⟨e, he⟩ := List.exists_mem_of_ne_nil _ (loweredAt_ne_nil before d cs)
        refine Nat.lt_of_not_le fun hbeyond => ?_
        exact not_isFaithful_of_mem_loweredAt hbeyond he (h e (List.mem_append_left _ he))
      · exact ih (fun e he => h e (List.mem_append_right _ he)) d hd

theorem plain_of_toLower (h : c.toLower.toNat < 128) : c.toNat < 128 := by
  rw [Char.toLower] at h
  split at h
  · next hcapital => exact Nat.lt_of_le_of_lt (UInt32.le_iff_toNat_le.1 hcapital.2) (by decide)
  · exact h

/-- What a text is in lower case is told letter by letter as long as it is plain. -/
theorem lower_eq_iff (h : ∀ d ∈ t.toList, IsFaithful d) :
    lower s = t ↔ s.toList.map Char.toLower = t.toList := by
  rw [← String.toList_inj, lower, String.toList_ofList]
  constructor
  · intro hlower
    rw [← hlower] at h ⊢
    exact (lowerAfter_of_plain (plain_of_lowerAfter h)).symm
  · intro hmap
    rw [← hmap]
    refine lowerAfter_of_plain fun c hc => plain_of_toLower ?_
    exact (h c.toLower (hmap ▸ List.mem_map_of_mem hc)).1

end TagCloud.Text
