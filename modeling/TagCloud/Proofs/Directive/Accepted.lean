import TagCloud.Proofs.Directive.Sizes

/-!
# Values that are accepted

The readers of the five keys do not ask for a value to be written by its grammar as a whole. Each of
them looks for what it can use where its key has it, a font size anywhere and everything else at the
front, and leaves the rest of the value alone. What it must not do is to cut a word or a number in
two: a mode and a style end where a word ends, and no numeral of a font size begins behind a digit
or a point.

That a reader finds only what is there is known from the values that are refused. Here it is shown
to find what is there, so that both together say exactly which values have an effect.
-/

namespace TagCloud

open TagCloud.Text TagCloud.Directive

/-- The reader of a key finds something in a value. -/
inductive Accepted : (key value : String) → Prop
  | fontSize {value : String} {size : FontSize} (h : FontSize.parse value = some size) :
      Accepted "font-size" value
  | threshold {value : String} {n : Nat} (h : parseCount value = .ok (some n)) :
      Accepted "threshold" value
  | limit {value : String} {n : Nat} (h : parseCount value = .ok (some n)) :
      Accepted "limit" value
  | sort {value : String} {sorting : Sorting} (h : Sorting.parse value = some sorting) :
      Accepted "sort" value
  | style {value : String} {styling : Styling} (h : Styling.parse value = some styling) :
      Accepted "style" value

/-! ## What is there is found -/

section

variable {value : String}

/-- A font size that is not behind a digit or a point is found, or another one before it is. -/
theorem FontSize.isSome_find?_append {front rest : List Char} {inNumber : Bool}
    (hstart : front = [] → inNumber = false) (hfront : ∀ c ∈ front.getLast?, inNumeral c = false)
    (hread : (read? rest).isSome) : (find? inNumber (front ++ rest)).isSome := by
  induction front generalizing inNumber with
  | nil =>
      cases rest with
      | nil => exact absurd hread (by decide)
      | cons c rest =>
          rw [List.nil_append, find?_cons, hstart rfl, Option.isSome_or]
          simp [hread]
  | cons c front ih =>
      have hlast : ∀ d ∈ front.getLast?, inNumeral d = false := by
        cases front with
        | nil => simp
        | cons d front => rwa [List.getLast?_cons_cons] at hfront
      have hnext : front = [] → inNumeral c = false := by
        rintro rfl
        exact hfront c rfl
      rw [List.cons_append, find?_cons, Option.isSome_or, ih hnext hlast, Bool.or_true]

theorem FontSize.isSome_read?_of_value {size : FontSize} {text : List Char}
    (htext : (Setting.fontSize size).Value text) (back : List Char) :
    (read? (text ++ back)).isSome := by
  cases htext with
  | fontSize ha hb hunit h₁ h₂ h₃ =>
      have hread := FontSize.read?_written ha hb hunit h₁ h₂ h₃ back
      simp only [List.append_assoc, List.cons_append] at hread ⊢
      rw [hread]
      rfl

theorem frontDigits_ne_nil_iff :
    frontDigits value ≠ [] ↔ ∃ c back, value.toList = c :: back ∧ isDigit c = true := by
  rw [frontDigits]
  cases value.toList with
  | nil => simp
  | cons c back =>
      by_cases hc : isDigit c = true
      · rw [List.takeWhile_cons_of_pos hc]
        exact iff_of_true (by simp) ⟨c, back, rfl, hc⟩
      · rw [List.takeWhile_cons_of_neg hc]
        refine iff_of_false (by simp) ?_
        rintro ⟨_, _, heq, hdigit⟩
        exact hc ((List.cons.inj heq).1 ▸ hdigit)

/-- A count is found where a digit is at the front, unless there are too many of them. -/
theorem exists_parseCount_eq_some :
    (∃ n, parseCount value = .ok (some n))
      ↔ (∃ c back, value.toList = c :: back ∧ isDigit c = true)
        ∧ (frontDigits value).length ≤ Number.digitLimit := by
  rw [← frontDigits_ne_nil_iff, parseCount, ← frontDigits]
  simp only [List.isEmpty_iff]
  split
  · next hnil => simp [hnil]
  · next hne =>
      rw [Number.readDigits]
      split
      · next hlong => simp [Except.map, Nat.not_le.2 hlong]
      · next hshort => simp [Except.map, hne, Nat.le_of_not_lt hshort]

end

/-! ## What is accepted -/

theorem accepted_iff_usable (key value : String) :
    Accepted key value ↔ Usable key value.toList
      ∧ (key ∈ ["threshold", "limit"] → (frontDigits value).length ≤ Number.digitLimit) := by
  constructor
  · rintro (h | h | h | h | h)
    · exact ⟨usable_of_parse_fontSize h, by simp⟩
    · obtain ⟨⟨c, back, heq, hc⟩, hshort⟩ := exists_parseCount_eq_some.1 ⟨_, h⟩
      rw [heq]
      exact ⟨.threshold hc, fun _ => hshort⟩
    · obtain ⟨⟨c, back, heq, hc⟩, hshort⟩ := exists_parseCount_eq_some.1 ⟨_, h⟩
      rw [heq]
      exact ⟨.limit hc, fun _ => hshort⟩
    · exact ⟨usable_of_parse_sort h, by simp⟩
    · exact ⟨usable_of_parse_style h, by simp⟩
  · rintro ⟨husable, hshort⟩
    generalize heq : value.toList = cs at husable
    cases husable with
    | @fontSize size front text back hfront htext =>
        have hread := FontSize.isSome_read?_of_value htext back
        have hfound : (FontSize.find? false (front ++ (text ++ back))).isSome :=
          FontSize.isSome_find?_append (fun _ => rfl) hfront hread
        rw [← heq] at hfound
        obtain ⟨found, hfound⟩ := Option.isSome_iff_exists.1 hfound
        exact .fontSize hfound
    | threshold hc =>
        obtain ⟨n, hn⟩ := exists_parseCount_eq_some.2 ⟨⟨_, _, heq, hc⟩, hshort (by decide)⟩
        exact .threshold hn
    | limit hc =>
        obtain ⟨n, hn⟩ := exists_parseCount_eq_some.2 ⟨⟨_, _, heq, hc⟩, hshort (by decide)⟩
        exact .limit hn
    | sort hmode hback =>
        have hread : ∃ sorting, Sorting.parse value = some sorting := by
          rw [Sorting.parse, heq, mode_written hmode hback]
          exact ⟨_, rfl⟩
        exact .sort hread.choose_spec
    | style hstyle hback =>
        have hread : ∃ styling, Styling.parse value = some styling := by
          rw [Styling.parse, heq, style_written hstyle hback]
          exact ⟨_, rfl⟩
        exact .style hread.choose_spec

/-- A value that is written for a setting as a whole is accepted. -/
theorem accepted_of_writtenAs {s : Setting} {value : String} (h : s.WrittenAs value) :
    Accepted s.key value := by
  cases s with
  | fontSize size => exact .fontSize h.parse_fontSize
  | threshold n => exact .threshold h.parse_threshold
  | limit n => exact .limit h.parse_limit
  | sort sorting => exact .sort h.parse_sort
  | style styling => exact .style h.parse_style

/-- A value is accepted exactly when there is something in it for its key, which for a count must
not be too many digits; values that are written as a whole are among them. Keys without such a value
have their usual settings. -/
theorem Directive.accepted_iff {R : Type} [Magnitude R] :
    (∀ key value, Accepted key value ↔ Usable key value.toList
        ∧ (key ∈ ["threshold", "limit"] → (frontDigits value).length ≤ Number.digitLimit))
      ∧ (∀ (s : Setting) (value : String), s.WrittenAs value → Accepted s.key value)
      ∧ ∀ (directive : String) (c : Config R), Directive.parse directive = .ok c →
        c.LeavesUsual (Directive.split directive) :=
  ⟨accepted_iff_usable, fun _ _ => accepted_of_writtenAs,
    fun _ _ => RawSettings.leavesUsual_of_config⟩

/-- What is more than its grammar asks for does not keep a value from being accepted: behind a
number, behind a mode and behind a style, or around a font size. -/
theorem Directive.partly_written_accepted :
    (Accepted "limit" "3 items" ∧ ¬ ∃ n, (Setting.limit n).WrittenAs "3 items")
      ∧ (Accepted "sort" "freq ascending"
        ∧ ¬ ∃ sorting, (Setting.sort sorting).WrittenAs "freq ascending")
      ∧ (Accepted "style" "para\x7ba\x7d b"
        ∧ ¬ ∃ styling, (Setting.style styling).WrittenAs "para\x7ba\x7d b")
      ∧ (Accepted "font-size" "about 1 - 2em"
        ∧ ¬ ∃ size, (Setting.fontSize size).WrittenAs "about 1 - 2em") := by
  have hcount : parseCount "3 items" = .ok (some 3) := by decide
  have hsort : Sorting.parse "freq ascending" = some ⟨.freq, none⟩ := by decide
  have hstyle : Styling.parse "para\x7ba\x7d b" = some ⟨.para, some "a"⟩ := by decide
  have hsize : FontSize.parse "about 1 - 2em" = some ⟨⟨['1'], []⟩, ⟨['2'], []⟩, .em⟩ := by decide
  refine ⟨⟨.limit hcount, ?_⟩, ⟨.sort hsort, ?_⟩, ⟨.style hstyle, ?_⟩, .fontSize hsize, ?_⟩
  · rintro ⟨n, text, hvalue, heq⟩
    have htext : text = "3 items".toList := by rw [heq, String.toList_ofList]
    cases hvalue with
    | limit hne hdigits hlength =>
        rw [htext] at hdigits
        exact absurd hdigits (by decide)
  · rintro ⟨sorting, hwritten⟩
    -- Only a mode is read, so nothing but a mode can have been written.
    obtain rfl := Option.some.inj (hsort.symm.trans hwritten.parse_sort)
    obtain ⟨text, hvalue, heq⟩ := hwritten
    have htext : text = "freq ascending".toList := by rw [heq, String.toList_ofList]
    cases hvalue with
    | mode hmode => exact absurd htext (by decide)
  · rintro ⟨styling, hwritten⟩
    obtain rfl := Option.some.inj (hstyle.symm.trans hwritten.parse_style)
    obtain ⟨text, hvalue, heq⟩ := hwritten
    have htext : text.getLast? = some 'b' := by
      rw [← String.toList_ofList (l := text), ← heq]
      decide
    cases hvalue with
    | separator hstyle hgap hseparator => simp at htext
  · rintro ⟨size, text, hvalue, heq⟩
    have htext : text = "about 1 - 2em".toList := by rw [heq, String.toList_ofList]
    cases hvalue with
    | fontSize ha hb hunit h₁ h₂ h₃ =>
        have hhead := Numeral.inNumeral_head_text ha 'a' (by rw [htext]; decide)
        exact absurd hhead (by decide)

end TagCloud
