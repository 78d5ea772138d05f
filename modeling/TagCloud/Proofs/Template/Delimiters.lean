import TagCloud.Proofs.Text.Span
import TagCloud.Proofs.Text.Trim
import TagCloud.Template.Tag

/-!
# Reading behind words, blanks and hyphens

A combinator that skips blanks or a hyphen tries every way to do so, and the usual delimiters leave
it only one: what is to follow begins with neither. So each combinator goes over what was written
for it and leaves the rest to its continuation, and whenever it succeeds, its text was written so.
-/

namespace TagCloud.Template

open TagCloud.Text

variable {α : Type} {next : List Char → Option α} {word pad cs rest : List Char} {a : α}

/-! ## Going over what is written -/

theorem after_append (word : List Char) (next : List Char → Option α) (rest : List Char) :
    after word next (word ++ rest) = next rest := by
  rw [after, behind?_append]

theorem after_of_ne {c d : Char} (h : d ≠ c) :
    after (c :: word) next (d :: cs) = none := by
  simp [after, behind?, Ne.symm h]

theorem afterBlanks_of_stops (h : Stops isBlank rest) : afterBlanks next rest = next rest := by
  cases rest with
  | nil => rfl
  | cons c rest => simp [afterBlanks, h c rfl]

/-- Blanks are skipped up to the last one, when the continuation takes none. -/
theorem afterBlanks_append (hpad : AllBlank pad) (hrest : Stops isBlank rest)
    (hnext : ∀ c cs, isBlank c = true → next (c :: cs) = none) :
    afterBlanks next (pad ++ rest) = next rest := by
  induction pad with
  | nil => exact afterBlanks_of_stops hrest
  | cons c pad ih =>
      have hc : isBlank c = true := hpad c List.mem_cons_self
      rw [List.cons_append, afterBlanks, if_pos hc,
        ih fun d hd => hpad d (List.mem_cons_of_mem c hd)]
      cases hfound : next rest with
      | some found => rfl
      | none => exact hnext c (pad ++ rest) hc

theorem afterHyphen_of_ne {c : Char} (hc : c ≠ '-') (cs : List Char) :
    afterHyphen next (c :: cs) = next (c :: cs) := by
  unfold afterHyphen
  split
  · next heq => exact absurd (List.cons.inj heq).1 hc
  · rfl

/-- A hyphen is skipped, when the continuation takes none. -/
theorem afterHyphen_append {trims : Bool} (hrest : rest.head? ≠ some '-')
    (hnext : ∀ cs, next ('-' :: cs) = none) :
    afterHyphen next (hyphen trims ++ rest) = next rest := by
  cases trims with
  | true =>
      simp only [hyphen, if_true, List.singleton_append, afterHyphen, hnext]
      cases next rest with
      | some found => rfl
      | none => rfl
  | false =>
      simp only [hyphen, Bool.false_eq_true, if_false, List.nil_append]
      unfold afterHyphen
      split
      · next heq => exact absurd rfl hrest
      · rfl

/-! ## What a success comes from -/

theorem after_eq_some :
    after word next cs = some a ↔ ∃ rest, cs = word ++ rest ∧ next rest = some a := by
  constructor
  · intro h
    unfold after at h
    split at h
    · next rest hbehind => exact ⟨rest, behind?_eq_some_iff.1 hbehind, h⟩
    · exact absurd h (by simp)
  · rintro ⟨rest, rfl, h⟩
    rw [after_append, h]

theorem exists_of_afterBlanks (h : afterBlanks next cs = some a) :
    ∃ pad rest, AllBlank pad ∧ cs = pad ++ rest ∧ next rest = some a := by
  induction cs with
  | nil => exact ⟨[], [], allBlank_nil, rfl, h⟩
  | cons c cs ih =>
      rw [afterBlanks] at h
      split at h
      · next hc =>
          split at h
          · next found hfound =>
              obtain ⟨pad, rest, hpad, rfl, hrest⟩ := ih (hfound.trans h)
              exact ⟨c :: pad, rest, List.forall_mem_cons.2 ⟨hc, hpad⟩, rfl, hrest⟩
          · exact ⟨[], c :: cs, allBlank_nil, rfl, h⟩
      · exact ⟨[], c :: cs, allBlank_nil, rfl, h⟩

theorem exists_of_afterHyphen (h : afterHyphen next cs = some a) :
    ∃ trims rest, cs = hyphen trims ++ rest ∧ next rest = some a := by
  unfold afterHyphen at h
  split at h
  · next rest =>
      split at h
      · next found hfound => exact ⟨true, rest, rfl, hfound.trans h⟩
      · exact ⟨false, '-' :: rest, rfl, h⟩
  · exact ⟨false, cs, rfl, h⟩

end TagCloud.Template
