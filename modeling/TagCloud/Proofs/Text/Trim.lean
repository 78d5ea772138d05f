import Mathlib.Data.List.DropRight
import TagCloud.Proofs.Text.Span
import TagCloud.Text.Blank

/-!
# Blanks around a text

Trimming drops the blanks at both ends of a text and nothing else. Blanks that are added at the ends
are therefore lost again, and a text that neither begins nor ends with a blank is kept as it is. The
two ends do not get into each other's way, so that trimming twice is trimming once.
-/

namespace TagCloud.Text

variable {pad before after cs : List Char}

/-- A text of nothing but blanks. -/
def AllBlank (cs : List Char) : Prop :=
  ∀ c ∈ cs, isBlank c = true

instance (cs : List Char) : Decidable (AllBlank cs) :=
  inferInstanceAs (Decidable (∀ c ∈ cs, isBlank c = true))

/-- A text that neither begins nor ends with a blank. -/
structure Tight (cs : List Char) : Prop where
  head : ∀ c ∈ cs.head?, isBlank c = false
  last : ∀ c ∈ cs.getLast?, isBlank c = false

theorem allBlank_nil : AllBlank [] := by
  simp [AllBlank]

theorem trimLeft_append_left (h : AllBlank pad) : trimLeft (pad ++ cs) = trimLeft cs :=
  List.dropWhile_append_of_pos h

theorem trimRight_append_right (h : AllBlank pad) : trimRight (cs ++ pad) = trimRight cs := by
  have hreverse : ∀ c ∈ pad.reverse, isBlank c = true := fun c hc => h c (List.mem_reverse.1 hc)
  rw [trimRight, trimRight, List.reverse_append, List.dropWhile_append_of_pos hreverse]

theorem trimLeft_of_head (h : ∀ c ∈ cs.head?, isBlank c = false) : trimLeft cs = cs := by
  cases cs with
  | nil => rfl
  | cons c cs => exact List.dropWhile_cons_of_neg (by simp [h c rfl])

theorem trimRight_of_last (h : ∀ c ∈ cs.getLast?, isBlank c = false) : trimRight cs = cs := by
  have hreverse : trimLeft cs.reverse = cs.reverse := by
    refine trimLeft_of_head fun c hc => h c ?_
    rwa [List.head?_reverse] at hc
  rw [trimRight, ← trimLeft, hreverse, List.reverse_reverse]

/-- Up to the last character that is no blank nothing is dropped. -/
theorem trimRight_append_of_ne_nil (h : trimRight cs ≠ []) (front : List Char) :
    trimRight (front ++ cs) = front ++ trimRight cs := by
  have hne : cs.reverse.dropWhile isBlank ≠ [] := fun hnil => h (by rw [trimRight, hnil]; rfl)
  rw [trimRight, trimRight, List.reverse_append, List.dropWhile_append]
  split
  · next hempty => exact absurd (List.isEmpty_iff.1 hempty) hne
  · rw [List.reverse_append, List.reverse_reverse]

theorem trimRight_cons_eq_nil {c : Char} (h : trimRight cs = []) (hc : isBlank c = true) :
    trimRight (c :: cs) = [] := by
  have hnil : cs.reverse.dropWhile isBlank = [] := by
    rwa [trimRight, List.reverse_eq_nil_iff] at h
  rw [trimRight, List.reverse_cons, List.dropWhile_append, hnil]
  simp [hc]

/-- The two ends can be trimmed in either order. -/
theorem trimLeft_trimRight (cs : List Char) :
    trimLeft (trimRight cs) = trimRight (trimLeft cs) := by
  induction cs with
  | nil => rfl
  | cons c cs ih =>
      cases hc : isBlank c with
      | false =>
          have hsingle : trimRight [c] = [c] := by
            refine trimRight_of_last fun d hd => ?_
            rw [List.getLast?_singleton, Option.mem_some_iff] at hd
            rw [← hd, hc]
          have hhead : ∀ d ∈ (trimRight (c :: cs)).head?, isBlank d = false := by
            intro d hd
            have hprefix : trimRight (c :: cs) <+: c :: cs := by
              rw [← List.reverse_suffix, trimRight, List.reverse_reverse]
              exact List.dropWhile_suffix _
            cases htrim : trimRight (c :: cs) with
            | nil => rw [htrim] at hd; exact absurd hd (by simp)
            | cons e es =>
                rw [htrim] at hprefix hd
                rw [List.head?_cons, Option.mem_some_iff] at hd
                rw [← hd, (List.cons_prefix_cons.1 hprefix).1, hc]
          rw [trimLeft_of_head hhead, trimLeft_of_head (by simpa using hc)]
      | true =>
          have hdrop : trimLeft (c :: cs) = trimLeft cs := List.dropWhile_cons_of_pos hc
          by_cases hnil : trimRight cs = []
          · rw [trimRight_cons_eq_nil hnil hc, hdrop, ← ih, hnil]
          · have happend := trimRight_append_of_ne_nil hnil [c]
            rw [List.singleton_append] at happend
            rw [happend, hdrop, ← ih]
            exact List.dropWhile_cons_of_pos hc

theorem trimLeft_append_of_not_blank {c : Char} (hc : isBlank c = false) (front back : List Char) :
    trimLeft (front ++ c :: back) = trimLeft front ++ c :: back := by
  rw [trimLeft, trimLeft, List.dropWhile_append]
  split
  · next hempty =>
      rw [List.isEmpty_iff.1 hempty, List.dropWhile_cons_of_neg (by simp [hc])]
      rfl
  · rfl

theorem trimRight_append_of_not_blank {c : Char} (hc : isBlank c = false)
    (front back : List Char) :
    trimRight (front ++ c :: back) = front ++ c :: trimRight back := by
  have hreverse : (front ++ c :: back).reverse = back.reverse ++ c :: front.reverse := by simp
  have htrim := trimLeft_append_of_not_blank hc back.reverse front.reverse
  rw [trimRight, hreverse, ← trimLeft, htrim, trimRight, trimLeft]
  simp

/-- On both sides of a character that is no blank only the outer end is trimmed. -/
theorem trim_append_of_not_blank {c : Char} (hc : isBlank c = false) (front back : List Char) :
    trim (front ++ c :: back) = trimLeft front ++ c :: trimRight back := by
  rw [trim, trimLeft_append_of_not_blank hc, trimRight_append_of_not_blank hc]

theorem trimLeft_trimLeft (cs : List Char) : trimLeft (trimLeft cs) = trimLeft cs :=
  List.dropWhile_idempotent _ _

theorem trimRight_trimRight (cs : List Char) : trimRight (trimRight cs) = trimRight cs := by
  rw [trimRight, trimRight, List.reverse_reverse, List.dropWhile_idempotent]

theorem trim_trimLeft (cs : List Char) : trim (trimLeft cs) = trim cs := by
  rw [trim, trimLeft_trimLeft, trim]

theorem trim_trimRight (cs : List Char) : trim (trimRight cs) = trim cs := by
  rw [trim, trimLeft_trimRight, trimRight_trimRight, trim]

theorem mem_of_mem_trimLeft {c : Char} (h : c ∈ trimLeft cs) : c ∈ cs :=
  (List.dropWhile_suffix isBlank).subset h

theorem mem_of_mem_trim {c : Char} (h : c ∈ trim cs) : c ∈ cs := by
  rw [trim, trimRight, List.mem_reverse] at h
  exact mem_of_mem_trimLeft (List.mem_reverse.1 ((List.dropWhile_suffix isBlank).subset h))

theorem tight_of_forall (h : ∀ c ∈ cs, isBlank c = false) : Tight cs :=
  ⟨fun c hc => h c (List.mem_of_mem_head? hc), fun c hc => h c (List.mem_of_mem_getLast? hc)⟩

/-- Whether a text is tight shows at its ends. -/
theorem Tight.append {front back : List Char} (hfront : Tight front) (hback : Tight back)
    (hne : front ≠ []) (hne' : back ≠ []) (mid : List Char) : Tight (front ++ (mid ++ back)) := by
  constructor
  · rw [List.head?_append_of_ne_nil _ hne]
    exact hfront.head
  · rw [← List.append_assoc, List.getLast?_append_of_ne_nil _ hne']
    exact hback.last

theorem trim_of_tight (h : Tight cs) : trim cs = cs := by
  rw [trim, trimLeft_of_head h.head, trimRight_of_last h.last]

theorem trim_append_left (h : AllBlank pad) : trim (pad ++ cs) = trim cs := by
  rw [trim, trimLeft_append_left h, trim]

theorem trim_append_right (h : AllBlank pad) : trim (cs ++ pad) = trim cs := by
  rw [trim, ← trimLeft_trimRight, trimRight_append_right h, trimLeft_trimRight, trim]

/-- Blanks at both ends are lost. -/
theorem trim_append (hbefore : AllBlank before) (hafter : AllBlank after) :
    trim (before ++ cs ++ after) = trim cs := by
  rw [trim_append_right hafter, trim_append_left hbefore]

/-- Nothing but blanks is lost behind a text. -/
theorem exists_blanks_behind (cs : List Char) :
    ∃ after, AllBlank after ∧ cs = trimRight cs ++ after := by
  have hright : (cs.reverse.takeWhile isBlank ++ cs.reverse.dropWhile isBlank).reverse = cs := by
    rw [List.takeWhile_append_dropWhile, List.reverse_reverse]
  refine ⟨(cs.reverse.takeWhile isBlank).reverse,
    fun c hc => List.mem_takeWhile_imp (List.mem_reverse.1 hc), ?_⟩
  rw [List.reverse_append] at hright
  rw [trimRight, hright]

/-- Nothing but blanks is lost before a text. -/
theorem exists_blanks_before (cs : List Char) :
    ∃ before, AllBlank before ∧ cs = before ++ trimLeft cs :=
  ⟨cs.takeWhile isBlank, fun _ hc => List.mem_takeWhile_imp hc,
    List.takeWhile_append_dropWhile.symm⟩

/-- Nothing but blanks is lost. -/
theorem exists_blanks_around (cs : List Char) :
    ∃ before after, AllBlank before ∧ AllBlank after ∧ cs = before ++ trim cs ++ after := by
  obtain ⟨before, hbefore, hleft⟩ := exists_blanks_before cs
  obtain ⟨after, hafter, hright⟩ := exists_blanks_behind (trimLeft cs)
  refine ⟨before, after, hbefore, hafter, ?_⟩
  rw [List.append_assoc, trim, ← hright, ← hleft]

theorem trim_isInfix (cs : List Char) : trim cs <:+: cs := by
  obtain ⟨before, after, -, -, h⟩ := exists_blanks_around cs
  exact ⟨before, after, h.symm⟩

end TagCloud.Text
