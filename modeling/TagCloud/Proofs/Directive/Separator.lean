import TagCloud.Proofs.Directive.Coherent
import TagCloud.Proofs.Directive.Scanned
import TagCloud.Proofs.Directive.Written

/-!
# Separators that survive

A separator stands in braces, and two readers look at these braces. The cutter closes a group at the
first closing brace, while the style takes its separator up to the last one of its value. They agree
as long as the directive is not cut inside the separator, and that is decided by the commas alone: a
separator comes back exactly when the cutter, in the group that the separator stands in, meets none
of its commas outside.

If it meets one, the separator is lost for good. Some later piece of the directive may be a style
with a separator of its own, but no piece is long enough to hold the one that was asked for.
-/

namespace TagCloud

open TagCloud.Text TagCloud.Directive

namespace Directive

/-- The directive for a paragraph with a separator. -/
def separatedBy (s : String) : String :=
  "style: para\x7b" ++ s ++ "\x7d"

/-- A separator is that of the cloud that is asked for with it. -/
def Survives (R : Type) [Magnitude R] (s : String) : Prop :=
  ∃ c : Config R, Directive.parse (separatedBy s) = .ok c ∧ c.separator = s

/-! ## Commas outside of groups -/

section

variable {inside : Bool} {cs : List Char}

theorem exists_of_not_enclosed (h : ¬ Enclosed inside cs) :
    ∃ front back, cs = front ++ ',' :: back ∧ Enclosed inside front
      ∧ insideAfter inside front = false := by
  induction cs generalizing inside with
  | nil => exact absurd enclosed_nil h
  | cons c cs ih =>
      by_cases hc : c = ',' → inside = true
      · have hrest : ¬ Enclosed (groupStep inside c) cs :=
          fun hrest => h (enclosed_cons_iff.2 ⟨hc, hrest⟩)
        obtain ⟨front, back, rfl, hfront, hends⟩ := ih hrest
        exact ⟨c :: front, back, rfl, enclosed_cons_iff.2 ⟨hc, hfront⟩, hends⟩
      · rw [Classical.not_imp, Bool.not_eq_true] at hc
        obtain ⟨rfl, hinside⟩ := hc
        exact ⟨[], cs, rfl, enclosed_nil, hinside⟩

theorem insideAfter_false_of_not_mem (h : '{' ∉ cs) : insideAfter false cs = false := by
  induction cs with
  | nil => rfl
  | cons c cs ih =>
      rw [List.mem_cons, not_or] at h
      have hstep : groupStep false c = false := beq_eq_false_iff_ne.2 (Ne.symm h.1)
      rw [insideAfter, List.foldl_cons, hstep]
      exact ih h.2

theorem length_le_of_mem_pieces {piece : List Char} (h : piece ∈ pieces inside cs) :
    piece.length ≤ cs.length := by
  induction cs generalizing inside piece with
  | nil => simp_all [pieces]
  | cons c cs ih =>
      rw [pieces] at h
      split at h
      · rcases List.mem_cons.1 h with rfl | h
        · exact Nat.zero_le _
        · exact Nat.le_succ_of_le (ih h)
      · obtain ⟨first, more, heq⟩ :=
          List.exists_cons_of_ne_nil (pieces_ne_nil (groupStep inside c) cs)
        rw [heq, List.modifyHead_cons] at h
        rcases List.mem_cons.1 h with rfl | h
        · exact Nat.succ_le_succ (ih (heq ▸ List.mem_cons_self))
        · exact Nat.le_succ_of_le (ih (heq ▸ List.mem_cons_of_mem first h))

end

theorem toList_separatedBy (s : String) :
    (separatedBy s).toList = "style: para\x7b".toList ++ (s.toList ++ ['}']) := by
  simp [separatedBy, String.toList_append]

theorem enclosed_opening :
    Enclosed false "style: para\x7b".toList
      ∧ insideAfter false "style: para\x7b".toList = true := by
  decide

end Directive

/-! ## Separators that are not cut -/

section

variable {R : Type} [Magnitude R] {s : String}

/-- A directive that is not cut inside its separator has one style and nothing else. -/
theorem Directive.split_separatedBy (h : Enclosed true s.toList) :
    split (separatedBy s)
      = [("style", String.ofList ("para".toList ++ ('{' :: (s.toList ++ ['}']))))] := by
  have hwhole : Enclosed false (separatedBy s).toList := by
    rw [toList_separatedBy]
    refine enclosed_opening.1.append ?_
    rw [enclosed_opening.2]
    exact h.append (enclosed_cons_iff.2 ⟨by simp, enclosed_nil⟩)
  have hpara : Tight "para".toList := tight_of_forall (by decide)
  have hclose : Tight ['}'] := tight_of_forall (by decide)
  have htight := hpara.append hclose (by decide) (by simp) ('{' :: s.toList)
  have hentry : keyAndValue? (separatedBy s).toList
      = some ("style", String.ofList ("para".toList ++ ('{' :: s.toList ++ ['}']))) := by
    have htext : (separatedBy s).toList
        = "style".toList ++ ':' :: ([' '] ++ ("para".toList ++ ('{' :: s.toList ++ ['}']))) := by
      rw [toList_separatedBy]
      rfl
    rw [htext, ← entry?_eq_keyAndValue?, entry?_append (by decide), trim_append_left (by decide),
      trim_of_tight htight]
    rfl
  rw [split_eq_ofList, said_eq, pieces_of_enclosed hwhole, List.filterMap_cons_some hentry]
  rfl

theorem Directive.survives_of_enclosed (h : Enclosed true s.toList) : Survives R s := by
  have hstyle : (some (String.ofList ("para".toList ++ ('{' :: (s.toList ++ ['}']))))).bind
      Styling.parse = some ⟨.para, some s⟩ := by
    rw [Option.bind_some]
    exact @Styling.parse_written .para [] s (Or.inr rfl) allBlank_nil
  have hraw : ∀ value : String,
      RawSettings.ofEntries [("style", value)] = ⟨none, none, none, none, some value⟩ := by
    intro value
    simp [RawSettings.ofEntries, Dictionary.get?]
  refine ⟨Settings.config ⟨none, none, none, none, some ⟨.para, some s⟩⟩, ?_, rfl⟩
  rw [Directive.parse, split_separatedBy h, hraw]
  exact RawSettings.config_eq rfl rfl rfl rfl hstyle

/-! ## Separators that are cut -/

theorem exists_of_beforeLast? {mark : Char} {cs front : List Char}
    (h : beforeLast? mark cs = some front) : ∃ back, cs = front ++ mark :: back := by
  induction cs generalizing front with
  | nil => exact absurd h (by simp [beforeLast?])
  | cons c cs ih =>
      rw [beforeLast?] at h
      split at h
      · next rest hrest =>
          obtain ⟨back, rfl⟩ := ih hrest
          exact ⟨back, by rw [← Option.some.inj h]; rfl⟩
      · split at h
        · next hc => exact ⟨cs, by rw [← Option.some.inj h, hc]; rfl⟩
        · exact absurd h (by simp)

/-- A value holds its style and two braces besides the separator. -/
theorem Styling.length_of_parse {value separator : String} {styling : Styling}
    (h : Styling.parse value = some styling) (hseparator : styling.separator = some separator) :
    separator.toList.length + 6 ≤ value.toList.length := by
  simp only [Styling.parse, Option.bind_eq_bind, Option.bind_eq_some_iff, Option.pure_def,
    Option.some.injEq] at h
  obtain ⟨⟨style, rest⟩, hstyle, rfl⟩ := h
  obtain ⟨word, hmem, hvalue, -⟩ := eq_of_keyword? hstyle
  have hword : word.toList.length = 4 := by
    simp only [List.mem_cons, Prod.mk.injEq, List.not_mem_nil, or_false] at hmem
    obtain ⟨rfl, -⟩ | ⟨rfl, -⟩ := hmem
    · rfl
    · rfl
  simp only [Option.map_eq_some_iff] at hseparator
  obtain ⟨front, hfront, rfl⟩ := hseparator
  split at hfront
  · next body hbody =>
      obtain ⟨back, rfl⟩ := exists_of_beforeLast? hfront
      have hrest : (trimLeft rest).length ≤ rest.length := (List.dropWhile_sublist _).length_le
      rw [hbody] at hrest
      rw [hvalue, String.toList_ofList]
      simp only [List.length_append, List.length_cons] at hrest ⊢
      omega
  · exact absurd hfront (by simp)

/-- A piece holds its key and a colon besides the value. -/
theorem Directive.length_of_keyAndValue? {piece : List Char} {key value : String}
    (h : keyAndValue? piece = some (key, value)) :
    key.toList.length + 1 + value.toList.length ≤ piece.length := by
  by_cases hmem : ':' ∈ piece
  · obtain ⟨front, back, rfl, hfront⟩ := List.eq_append_cons_of_mem hmem
    rw [← entry?_eq_keyAndValue?, entry?_append hfront, Option.some.injEq, Prod.mk.injEq] at h
    have hkey := (trim_isInfix front).length_le
    have hvalue := (trim_isInfix back).length_le
    rw [← h.1, ← h.2, String.toList_ofList, String.toList_ofList, List.length_append,
      List.length_cons]
    omega
  · rw [keyAndValue?, if_neg hmem] at h
    exact absurd h (by simp)

theorem Directive.exists_piece_of_get? {directive key value : String}
    (h : Dictionary.get? key (split directive) = some value) :
    ∃ piece ∈ pieces false directive.toList, keyAndValue? piece = some (key, value) := by
  rw [split_eq_ofList, Dictionary.get?_ofList, said_eq, Option.map_eq_some_iff] at h
  obtain ⟨⟨k, v⟩, hlast, rfl⟩ := h
  obtain ⟨hentry, hkey⟩ := List.mem_filter.1 (List.mem_of_getLast? hlast)
  obtain ⟨piece, hpiece, hread⟩ := List.mem_filterMap.1 hentry
  have hk : k = key := by simpa using hkey
  exact ⟨piece, hpiece, hk ▸ hread⟩

/-- A separator is one of the two usual ones, or some piece holds it together with its key and its
style. -/
theorem Directive.separator_of_parse {directive : String} {c : Config R}
    (h : Directive.parse directive = .ok c) :
    c.separator = "" ∨ c.separator = paraSeparator
      ∨ ∃ piece ∈ pieces false directive.toList, c.separator.toList.length + 12 ≤ piece.length := by
  simp only [Directive.parse, RawSettings.config, RawSettings.ofEntries, bind_eq_ok,
    pure_eq_ok] at h
  obtain ⟨threshold, -, limit, -, rfl⟩ := h
  cases hstyling : (Dictionary.get? "style" (split directive)).bind Styling.parse with
  | none => exact Or.inl rfl
  | some styling =>
      obtain ⟨value, hvalue, hread⟩ := Option.bind_eq_some_iff.1 hstyling
      obtain ⟨piece, hpiece, hentry⟩ := exists_piece_of_get? hvalue
      have hlength := length_of_keyAndValue? hentry
      rcases Styling.style_of_parse hread with hstyle | hstyle
      · left
        simp [hstyle, Style.wrapping]
      · right
        cases hseparator : styling.separator with
        | none =>
            left
            simp [hstyle, hseparator, Style.wrapping]
        | some separator =>
            right
            have hlong := Styling.length_of_parse hread hseparator
            have hkey : "style".toList.length = 5 := rfl
            refine ⟨piece, hpiece, ?_⟩
            simp only [hstyle, hseparator, Style.wrapping, Option.map_some, Option.getD_some,
              Option.bind_some]
            omega

/-- A separator with a comma outside of its group is lost, whatever comes behind the comma. -/
theorem Directive.enclosed_of_survives (h : Survives R s) : Enclosed true s.toList := by
  by_contra hcut
  obtain ⟨front, back, hs, hfront, hends⟩ := exists_of_not_enclosed hcut
  obtain ⟨c, hparse, hseparator⟩ := h
  have hpieces : pieces false (separatedBy s).toList
      = ("style: para\x7b".toList ++ front) :: pieces false (back ++ ['}']) := by
    have hpad : Enclosed false ("style: para\x7b".toList ++ front) := by
      refine enclosed_opening.1.append ?_
      rwa [enclosed_opening.2]
    have hpadEnds : insideAfter false ("style: para\x7b".toList ++ front) = false := by
      rwa [insideAfter_append, enclosed_opening.2]
    have htext : (separatedBy s).toList
        = "style: para\x7b".toList ++ front ++ ',' :: (back ++ ['}']) := by
      rw [toList_separatedBy, hs]
      simp
    rw [htext, pieces_append_comma hpadEnds, pieces_of_enclosed hpad]
    rfl
  have hlength : s.toList.length = front.length + (back.length + 1) := by
    rw [hs, List.length_append, List.length_cons]
  -- the two usual separators have no comma outside, and no piece has room for the separator
  rcases separator_of_parse hparse with hnone | husual | ⟨piece, hpiece, hlong⟩
  · rw [hseparator] at hnone
    rw [hnone] at hcut
    exact hcut enclosed_nil
  · rw [hseparator] at husual
    rw [husual] at hcut
    exact hcut (by decide)
  · rw [hseparator] at hlong
    rw [hpieces] at hpiece
    rcases List.mem_cons.1 hpiece with rfl | hpiece
    · have hopening : "style: para\x7b".toList.length = 12 := rfl
      rw [List.length_append] at hlong
      omega
    · have hshort := length_le_of_mem_pieces hpiece
      rw [List.length_append, List.length_singleton] at hshort
      omega

/-- A separator in braces comes back exactly when all its commas lie inside groups, counting from
inside of one. One without closing braces always does, and one with a comma behind a closing brace
and no opening brace between them never does. -/
theorem Directive.survives_iff_enclosed (s : String) :
    (Survives R s ↔ Enclosed true s.toList)
      ∧ ('}' ∉ s.toList → Survives R s)
      ∧ ∀ front mid back, s.toList = front ++ '}' :: (mid ++ ',' :: back) → '{' ∉ mid →
        ¬ Survives R s := by
  refine ⟨⟨enclosed_of_survives, survives_of_enclosed⟩, fun h => ?_, fun front mid back hs h => ?_⟩
  · exact survives_of_enclosed (enclosed_of_not_mem h)
  · intro hsurvives
    have hinside := enclosed_of_survives hsurvives (front ++ '}' :: mid) back (by rw [hs]; simp)
    have hclosed : ∀ inside : Bool, groupStep inside '}' = false := by decide
    rw [insideAfter_append, insideAfter, List.foldl_cons, hclosed, ← insideAfter,
      insideAfter_false_of_not_mem h] at hinside
    exact absurd hinside (by simp)

end

/-- A group that is closed and opened again, one that holds a directive, and one that is closed for
good. -/
theorem Directive.survives_iff_enclosed_reopened :
    Enclosed true "a,b\x7d-\x7bc,d".toList ∧ Survives Float "a,b\x7d-\x7bc,d"
      ∧ '}' ∉ " , limit: 3\n".toList ∧ Survives Float " , limit: 3\n"
      ∧ "\x7d, style: para\x7b".toList = [] ++ '}' :: ([] ++ ',' :: " style: para\x7b".toList)
      ∧ ¬ Survives Float "\x7d, style: para\x7b" := by
  have hgroups : Enclosed true "a,b\x7d-\x7bc,d".toList := by decide
  have hopen : '}' ∉ " , limit: 3\n".toList := by decide
  refine ⟨hgroups, (Directive.survives_iff_enclosed _).1.2 hgroups, hopen,
    (Directive.survives_iff_enclosed _).2.1 hopen, rfl, ?_⟩
  exact (Directive.survives_iff_enclosed _).2.2 [] [] _ rfl (by simp)

end TagCloud
