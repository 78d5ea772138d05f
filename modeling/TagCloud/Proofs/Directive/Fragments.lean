import TagCloud.Directive.Fragment
import TagCloud.Proofs.Text.Trim

/-!
# Cutting a directive that was put together

A directive that was put together from fragments with commas between them is cut into the same
fragments again, provided that no fragment has a comma outside a group or leaves a group open. That
is a property of a fragment alone: the cutter, once it has come to its end, is in the same state as
at its beginning. Fragments with this property can be joined without a comma as well, so it is
enough to know it of texts without commas and braces and of single groups.

Whether a fragment is trimmed before or after it is taken apart at its colon makes no difference,
because a colon is no blank.
-/

namespace TagCloud.Directive

open TagCloud.Text

/-- The cutter passes over a text and goes on behind it as if it began there. -/
def Uncut (cs : List Char) : Prop :=
  ∀ rest, cutFragment (cs ++ rest) = (cs ++ (cutFragment rest).1, (cutFragment rest).2)

theorem uncut_nil : Uncut [] :=
  fun _ => rfl

theorem Uncut.append {front back : List Char} (hfront : Uncut front) (hback : Uncut back) :
    Uncut (front ++ back) := by
  intro rest
  rw [List.append_assoc, hfront, hback, List.append_assoc]

/-- A text without commas and opening braces is not cut. -/
theorem uncut_of_plain {cs : List Char} (hcomma : ',' ∉ cs) (hbrace : '{' ∉ cs) : Uncut cs := by
  induction cs with
  | nil => exact uncut_nil
  | cons c cs ih =>
      rw [List.mem_cons, not_or] at hcomma hbrace
      intro rest
      rw [List.cons_append, cutFragment, if_neg (Ne.symm hcomma.1), if_neg (Ne.symm hbrace.1),
        ih hcomma.2 hbrace.2]
      rfl

theorem closeGroup_append {body : List Char} (h : '}' ∉ body) (rest : List Char) :
    closeGroup (body ++ '}' :: rest) = (body ++ ['}'], rest) := by
  have hbody : ∀ c ∈ body, (c != '}') = true := by
    intro c hc
    exact bne_iff_ne.2 fun heq => h (heq ▸ hc)
  rw [closeGroup, List.dropWhile_append_of_pos hbody, List.takeWhile_append_of_pos hbody,
    List.dropWhile_cons_of_neg (by simp), List.takeWhile_cons_of_neg (by simp), List.append_nil]

theorem closeGroup_of_not_mem {cs : List Char} (h : '}' ∉ cs) : closeGroup cs = (cs, []) := by
  have hnil : cs.dropWhile (· != '}') = [] := by
    rw [List.dropWhile_eq_nil_iff]
    intro c hc
    exact bne_iff_ne.2 fun heq => h (heq ▸ hc)
  rw [closeGroup, hnil]

/-- A group is not cut, whatever commas it holds. -/
theorem uncut_group {body : List Char} (h : '}' ∉ body) : Uncut ('{' :: body ++ ['}']) := by
  intro rest
  have htext : '{' :: body ++ ['}'] ++ rest = '{' :: (body ++ '}' :: rest) := by simp
  rw [htext, cutFragment, if_neg (by decide), if_pos rfl]
  simp only [closeGroup_append h]
  simp

theorem Uncut.cutFragment_comma {cs : List Char} (h : Uncut cs) (rest : List Char) :
    cutFragment (cs ++ ',' :: rest) = (cs, ',' :: rest) := by
  rw [h, cutFragment, if_pos rfl, List.append_nil]

theorem Uncut.cutFragment_self {cs : List Char} (h : Uncut cs) : cutFragment cs = (cs, []) := by
  have hnil := h []
  rwa [cutFragment, List.append_nil] at hnil

theorem fragments_of_cut_nil {cs front : List Char} (h : cutFragment cs = (front, [])) :
    fragments cs = [front] := by
  rw [fragments]
  split
  · next heq => rw [h] at heq; rw [(Prod.mk.inj heq).1]
  · next heq => rw [h] at heq; exact absurd (Prod.mk.inj heq).2 (by simp)

theorem fragments_of_cut_cons {cs front rest : List Char} {c : Char}
    (h : cutFragment cs = (front, c :: rest)) : fragments cs = front :: fragments rest := by
  rw [fragments]
  split
  · next heq => rw [h] at heq; exact absurd (Prod.mk.inj heq).2 (by simp)
  · next heq =>
      rw [h] at heq
      obtain ⟨hfront, hrest⟩ := Prod.mk.inj heq
      rw [hfront, (List.cons.inj hrest).2]

/-- Fragments that are joined by commas are found again. -/
theorem fragments_intercalate {texts : List (List Char)} (hne : texts ≠ [])
    (h : ∀ t ∈ texts, Uncut t) : fragments ([','].intercalate texts) = texts := by
  induction texts with
  | nil => exact absurd rfl hne
  | cons t texts ih =>
      have ht := h t List.mem_cons_self
      cases texts with
      | nil => rw [List.intercalate_singleton, fragments_of_cut_nil ht.cutFragment_self]
      | cons next texts =>
          rw [List.intercalate_cons_cons, List.append_assoc, List.singleton_append,
            fragments_of_cut_cons (ht.cutFragment_comma _),
            ih (by simp) fun s hs => h s (List.mem_cons_of_mem t hs)]

/-! ## Keys and values -/

theorem atColon_append {key : List Char} (h : ':' ∉ key) (value : List Char) :
    atColon (key ++ ':' :: value) = some (key, value) := by
  induction key with
  | nil => rfl
  | cons c key ih =>
      rw [List.mem_cons, not_or] at h
      rw [List.cons_append, atColon, if_neg (Ne.symm h.1), ih h.2]
      rfl

theorem atColon_eq_none_iff {cs : List Char} : atColon cs = none ↔ ':' ∉ cs := by
  induction cs with
  | nil => simp [atColon]
  | cons c cs ih =>
      rw [atColon, List.mem_cons, not_or]
      split
      · next hc => simp [hc]
      · next hc => rw [Option.map_eq_none_iff, ih, and_iff_right (Ne.symm hc)]

theorem entry?_append {key : List Char} (h : ':' ∉ key) (value : List Char) :
    entry? (key ++ ':' :: value)
      = some (String.ofList (trim key), String.ofList (trim value)) := by
  rw [ entry?, atColon_append h]
  rfl

theorem entry?_nil : entry? [] = none :=
  rfl

/-- A fragment may be trimmed before it is taken apart. -/
theorem entry?_trim (cs : List Char) : entry? (trim cs) = entry? cs := by
  by_cases h : ':' ∈ cs
  · obtain ⟨key, value, rfl, hkey⟩ := List.eq_append_cons_of_mem h
    have hcolon := trim_append_of_not_blank (by decide : isBlank ':' = false) key value
    have htrimmed : ':' ∉ trimLeft key := fun hmem => hkey (mem_of_mem_trimLeft hmem)
    rw [hcolon, entry?_append htrimmed, entry?_append hkey, trim_trimLeft, trim_trimRight]
  · have htrimmed : ':' ∉ trim cs := fun hmem => h (mem_of_mem_trim hmem)
    rw [ entry?, entry?, atColon_eq_none_iff.2 h, atColon_eq_none_iff.2 htrimmed]

/-- Blanks around a key and around its value do not show. -/
theorem entry?_blanks {key value gap₁ gap₂ gap₃ gap₄ : List Char} (hkey : ':' ∉ key)
    (h₁ : AllBlank gap₁) (h₂ : AllBlank gap₂) (h₃ : AllBlank gap₃) (h₄ : AllBlank gap₄) :
    entry? (gap₁ ++ key ++ gap₂ ++ ':' :: (gap₃ ++ value ++ gap₄))
      = entry? (key ++ ':' :: value) := by
  have hblank : ∀ {gap : List Char}, AllBlank gap → ':' ∉ gap :=
    fun hgap hmem => absurd (hgap ':' hmem) (by decide)
  have hfront : ':' ∉ gap₁ ++ key ++ gap₂ := by
    simp only [List.mem_append, not_or]
    exact ⟨⟨hblank h₁, hkey⟩, hblank h₂⟩
  rw [entry?_append hfront, entry?_append hkey, trim_append h₁ h₂, trim_append h₃ h₄]

/-- Empty fragments and blanks around fragments do not show in the keys and values. -/
theorem filterMap_trimmed (texts : List (List Char)) :
    ((texts.map trim).filter fun cs => !cs.isEmpty).filterMap entry?
      = texts.filterMap entry? := by
  rw [List.filterMap_filter, List.filterMap_map]
  refine List.filterMap_congr fun cs _ => ?_
  simp only [Function.comp_apply]
  split
  · exact entry?_trim cs
  · next h =>
      have hnil : trim cs = [] := by simpa using h
      rw [← entry?_trim, hnil, entry?_nil]

theorem split_eq (directive : String) :
    split directive = Dictionary.ofList ((fragments directive.toList).filterMap entry?) := by
  rw [split, trimmedFragments, filterMap_trimmed]

end TagCloud.Directive
