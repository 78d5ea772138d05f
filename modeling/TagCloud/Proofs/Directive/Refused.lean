import TagCloud.Proofs.Directive.Coherent
import TagCloud.Proofs.Directive.Written

/-!
# Values that are refused

A value that its grammar refuses goes by without a word: what the value was to settle is settled as
if the key did not stand in the directive at all. Which values these are is said here by what is
written in a value and not by what is read from it, so every reader is shown to find only what is
there.

One thing is refused aloud. A threshold or a limit of more digits than are read is no refusal of the
grammar, and it does not leave the usual number in its place but fails the directive. The main
statement is that nothing else does.
-/

namespace TagCloud

open TagCloud.Text TagCloud.Directive

/-- A value in which there is something for a key. A font size may stand anywhere but behind a digit
or a point; with the other keys it is the front that counts, and what follows is free. -/
inductive Usable : (key : String) → (value : List Char) → Prop
  | fontSize {size : FontSize} {front text back : List Char}
      (hfront : ∀ c ∈ front.getLast?, inNumeral c = false)
      (htext : (Setting.fontSize size).Value text) : Usable "font-size" (front ++ (text ++ back))
  | threshold {c : Char} {back : List Char} (hc : isDigit c = true) :
      Usable "threshold" (c :: back)
  | limit {c : Char} {back : List Char} (hc : isDigit c = true) : Usable "limit" (c :: back)
  | sort {mode : Mode} {back : List Char} (hmode : mode = .freq ∨ mode = .rand ∨ mode = .alpha)
      (hback : endsWord back = true) : Usable "sort" (mode.name.toList ++ back)
  | style {style : Style} {back : List Char} (hstyle : style = .list ∨ style = .para)
      (hback : endsWord back = true) : Usable "style" (style.name.toList ++ back)

/-- No value in which there is something for a key is its value. -/
def Unsaid (entries : Dictionary String String) (key : String) : Prop :=
  ∀ value, entries.get? key = some value → ¬ Usable key value.toList

/-- A configuration has the usual settings for all keys for which nothing is said. -/
structure Config.LeavesUsual {R : Type} (c : Config R) (entries : Dictionary String String) :
    Prop where
  fontSize : Unsaid entries "font-size" →
    c.sizeMin = .whole 70 ∧ c.sizeMax = .whole 170 ∧ c.precision = 0 ∧ c.unit = .percent
  threshold : Unsaid entries "threshold" → c.threshold = 1
  limit : Unsaid entries "limit" → c.limit = 0
  sort : Unsaid entries "sort" → c.sort = .alpha ∧ c.order = .asc
  style : Unsaid entries "style" →
    c.style = .list ∧ c.tagBefore = "<li>" ∧ c.tagAfter = "</li>" ∧ c.separator = ""

/-! ## What is read stands in the value -/

theorem Numeral.eq_of_read? {cs rest : List Char} {n : Numeral}
    (h : Numeral.read? cs = some (n, rest)) : n.Proper ∧ cs = n.text ++ rest := by
  have hcs : cs.takeWhile isDigit ++ cs.dropWhile isDigit = cs := List.takeWhile_append_dropWhile
  have hwhole : IsDigits (cs.takeWhile isDigit) := fun c hc => List.mem_takeWhile_imp hc
  unfold read? at h
  generalize cs.takeWhile isDigit = whole at h hcs hwhole
  generalize cs.dropWhile isDigit = behind at h hcs
  subst hcs
  -- without digits behind a point the numeral ends before the point, if there is one
  have hplain : (if whole = [] then none else some ((⟨whole, []⟩ : Numeral), behind))
      = some (n, rest) → n.Proper ∧ whole ++ behind = n.text ++ rest := by
    intro hfound
    split at hfound
    · exact absurd hfound (by simp)
    · next hne =>
        obtain ⟨rfl, rfl⟩ := Prod.mk.inj (Option.some.inj hfound)
        exact ⟨⟨hwhole, by simp [IsDigits], Or.inl hne⟩, by simp [text]⟩
  simp only [List.isEmpty_iff] at h
  split at h
  · next more =>
      split at h
      · exact hplain h
      · next hne =>
          obtain ⟨rfl, rfl⟩ := Prod.mk.inj (Option.some.inj h)
          refine ⟨⟨hwhole, fun c hc => List.mem_takeWhile_imp hc, Or.inr hne⟩, ?_⟩
          rw [text, if_neg hne, List.append_assoc, List.cons_append, List.drop_succ_cons,
            List.drop_zero, List.takeWhile_append_dropWhile]
  · exact hplain h

theorem SizeUnit.eq_of_read? {cs : List Char} {unit : SizeUnit}
    (h : SizeUnit.read? cs = some unit) : ∃ back, cs = unit.name.toList ++ back := by
  unfold SizeUnit.read? at h
  split at h
  · obtain rfl := Option.some.inj h
    exact ⟨_, rfl⟩
  · obtain rfl := Option.some.inj h
    exact ⟨_, rfl⟩
  · obtain rfl := Option.some.inj h
    exact ⟨_, rfl⟩
  · exact absurd h (by simp)

theorem FontSize.eq_of_read? {cs : List Char} {size : FontSize}
    (h : FontSize.read? cs = some size) :
    ∃ text back, (Setting.fontSize size).Value text ∧ cs = text ++ back := by
  have hknown := FontSize.unit_of_read? h
  simp only [FontSize.read?, Option.bind_eq_bind, Option.bind_eq_some_iff] at h
  obtain ⟨⟨least, rest⟩, hleast, h⟩ := h
  split at h
  · next behind hdash =>
      simp only [Option.bind_eq_some_iff, Option.pure_def, Option.some.injEq] at h
      obtain ⟨⟨greatest, rest'⟩, hgreatest, unit, hunit, rfl⟩ := h
      obtain ⟨ha, rfl⟩ := Numeral.eq_of_read? hleast
      obtain ⟨hb, hbehind⟩ := Numeral.eq_of_read? hgreatest
      obtain ⟨back, hback⟩ := SizeUnit.eq_of_read? hunit
      obtain ⟨gap₁, h₁, hrest⟩ := exists_blanks_before rest
      obtain ⟨gap₂, h₂, hgap₂⟩ := exists_blanks_before behind
      obtain ⟨gap₃, h₃, hgap₃⟩ := exists_blanks_before rest'
      refine ⟨_, back, .fontSize ha hb hknown h₁ h₂ h₃, ?_⟩
      rw [hrest, hdash, hgap₂, hbehind, hgap₃, hback]
      simp
  · exact absurd h (by simp)

theorem FontSize.eq_of_find? {inNumber : Bool} {cs : List Char} {size : FontSize}
    (h : FontSize.find? inNumber cs = some size) :
    ∃ front text back, (front = [] → inNumber = false)
      ∧ (∀ c ∈ front.getLast?, inNumeral c = false)
      ∧ (Setting.fontSize size).Value text ∧ cs = front ++ (text ++ back) := by
  obtain ⟨front, behind, rfl, hstart, hlast, hread⟩ := FontSize.exists_of_find? h
  obtain ⟨text, back, htext, rfl⟩ := FontSize.eq_of_read? hread
  exact ⟨front, text, back, hstart, hlast, htext, rfl⟩

section

variable {value : String}

theorem usable_of_parse_fontSize {size : FontSize} (h : FontSize.parse value = some size) :
    Usable "font-size" value.toList := by
  obtain ⟨front, text, back, -, hfront, htext, heq⟩ := FontSize.eq_of_find? h
  rw [heq]
  exact .fontSize hfront htext

theorem usable_of_parse_sort {sorting : Sorting} (h : Sorting.parse value = some sorting) :
    Usable "sort" value.toList := by
  simp only [Sorting.parse, Option.bind_eq_bind, Option.bind_eq_some_iff] at h
  obtain ⟨⟨mode, rest⟩, hmode, -⟩ := h
  obtain ⟨word, hmem, heq, hends⟩ := eq_of_keyword? hmode
  rw [heq]
  simp only [List.mem_cons, Prod.mk.injEq, List.not_mem_nil, or_false] at hmem
  obtain ⟨rfl, rfl⟩ | ⟨rfl, rfl⟩ | ⟨rfl, rfl⟩ := hmem
  · exact @Usable.sort .freq rest (Or.inl rfl) hends
  · exact @Usable.sort .rand rest (Or.inr (Or.inl rfl)) hends
  · exact @Usable.sort .alpha rest (Or.inr (Or.inr rfl)) hends

theorem usable_of_parse_style {styling : Styling} (h : Styling.parse value = some styling) :
    Usable "style" value.toList := by
  simp only [Styling.parse, Option.bind_eq_bind, Option.bind_eq_some_iff] at h
  obtain ⟨⟨style, rest⟩, hstyle, -⟩ := h
  obtain ⟨word, hmem, heq, hends⟩ := eq_of_keyword? hstyle
  rw [heq]
  simp only [List.mem_cons, Prod.mk.injEq, List.not_mem_nil, or_false] at hmem
  obtain ⟨rfl, rfl⟩ | ⟨rfl, rfl⟩ := hmem
  · exact @Usable.style .list rest (Or.inl rfl) hends
  · exact @Usable.style .para rest (Or.inr rfl) hends

/-- From a value that does not begin with a digit no count is read. -/
theorem parseCount_eq_none (h : ∀ c ∈ value.toList.head?, isDigit c = false) :
    parseCount value = .ok none := by
  have hdigits : value.toList.takeWhile isDigit = [] := by
    cases hvalue : value.toList with
    | nil => rfl
    | cons c cs =>
        rw [hvalue] at h
        exact List.takeWhile_cons_of_neg (by simp [h c rfl])
  rw [parseCount, hdigits]
  rfl

end

/-! ## What is left as usual -/

section

variable {entries : Dictionary String String} {key : String}

/-- A reader that finds only what is there finds nothing for a key for which nothing is said. -/
theorem Unsaid.bind_eq_none {α : Type} {read : String → Option α} (h : Unsaid entries key)
    (hread : ∀ {value a}, read value = some a → Usable key value.toList) :
    (entries.get? key).bind read = none := by
  rw [Option.bind_eq_none_iff]
  intro value hvalue
  cases hfound : read value with
  | none => rfl
  | some a => exact absurd (hread hfound) (h value hvalue)

theorem Unsaid.countOr_eq {usual n : Nat} (h : Unsaid entries key)
    (hdigit : ∀ {c : Char} {back : List Char}, isDigit c = true → Usable key (c :: back))
    (hcount : countOr usual (entries.get? key) = .ok n) : n = usual := by
  cases hvalue : entries.get? key with
  | none =>
      rw [hvalue] at hcount
      exact (Except.ok.inj hcount).symm
  | some value =>
      have hfront : ∀ c ∈ value.toList.head?, isDigit c = false := by
        intro c hc
        obtain ⟨back, hback⟩ := List.head?_eq_some_iff.1 hc
        cases hisDigit : isDigit c with
        | false => rfl
        | true => exact absurd (hback ▸ hdigit hisDigit) (h value hvalue)
      rw [hvalue, countOr, parseCount_eq_none hfront] at hcount
      exact (Except.ok.inj hcount).symm

variable {R : Type} [Magnitude R] {c : Config R}

theorem RawSettings.leavesUsual_of_config (h : (RawSettings.ofEntries entries).config = .ok c) :
    c.LeavesUsual entries := by
  simp only [RawSettings.config, RawSettings.ofEntries, bind_eq_ok, pure_eq_ok] at h
  obtain ⟨threshold, hthreshold, limit, hlimit, rfl⟩ := h
  constructor
  · intro hunsaid
    simp only [hunsaid.bind_eq_none usable_of_parse_fontSize]
    exact ⟨rfl, rfl, rfl, rfl⟩
  · intro hunsaid
    exact hunsaid.countOr_eq .threshold hthreshold
  · intro hunsaid
    exact hunsaid.countOr_eq .limit hlimit
  · intro hunsaid
    simp only [hunsaid.bind_eq_none usable_of_parse_sort]
    exact ⟨rfl, rfl⟩
  · intro hunsaid
    simp only [hunsaid.bind_eq_none usable_of_parse_style]
    exact ⟨rfl, rfl, rfl, rfl⟩

end

/-! ## What is refused aloud -/

/-- The digits at the front of a value. -/
def frontDigits (value : String) : List Char :=
  value.toList.takeWhile isDigit

theorem countOr_eq_error_iff {usual : Nat} {raw : Option String} {e : Number.TooManyDigits} :
    countOr usual raw = .error e
      ↔ ∃ value, raw = some value ∧ Number.digitLimit < (frontDigits value).length
        ∧ e = ⟨(frontDigits value).length⟩ := by
  cases raw with
  | none => simp [countOr]
  | some value =>
      have hlong : countOr usual (some value) = .error e
          ↔ Number.digitLimit < (frontDigits value).length
            ∧ e = ⟨(frontDigits value).length⟩ := by
        rw [countOr, parseCount, Number.readDigits, ← frontDigits]
        by_cases hnil : frontDigits value = []
        · simp [hnil, Except.map]
        · by_cases hlength : Number.digitLimit < (frontDigits value).length
          · simp [hnil, hlength, Except.map, eq_comm (a := e)]
          · simp [hnil, hlength, Except.map]
      rw [hlong]
      simp

theorem exists_countOr_eq_ok_iff {usual : Nat} {raw : Option String} :
    (∃ n, countOr usual raw = .ok n)
      ↔ ∀ value, raw = some value → (frontDigits value).length ≤ Number.digitLimit := by
  cases hcount : countOr usual raw with
  | ok n =>
      refine iff_of_true ⟨n, rfl⟩ fun value hvalue => Nat.le_of_not_lt fun hlong => ?_
      have herror := (@countOr_eq_error_iff usual raw _).2 ⟨value, hvalue, hlong, rfl⟩
      exact absurd (hcount.symm.trans herror) (by simp)
  | error e =>
      obtain ⟨value, hvalue, hlong, -⟩ := countOr_eq_error_iff.1 hcount
      exact iff_of_false (by simp) fun hall => absurd (hall value hvalue) (Nat.not_le_of_lt hlong)

section

variable {R : Type} [Magnitude R]

theorem RawSettings.exists_config_eq_ok_iff {raw : RawSettings} :
    (∃ c : Config R, raw.config = .ok c)
      ↔ (∃ n, countOr 1 raw.threshold = .ok n) ∧ ∃ n, countOr 0 raw.limit = .ok n := by
  simp only [RawSettings.config, bind_eq_ok, pure_eq_ok]
  constructor
  · rintro ⟨c, threshold, hthreshold, limit, hlimit, -⟩
    exact ⟨⟨threshold, hthreshold⟩, limit, hlimit⟩
  · rintro ⟨⟨threshold, hthreshold⟩, limit, hlimit⟩
    exact ⟨_, threshold, hthreshold, limit, hlimit, rfl⟩

/-- The threshold is looked at before the limit. -/
theorem RawSettings.config_eq_error {raw : RawSettings} {e : Number.TooManyDigits}
    (h : countOr 1 raw.threshold = .error e) : raw.config (R := R) = .error e := by
  rw [RawSettings.config, bind_eq_error]
  exact Or.inl h

/-- A threshold or a limit of more digits than are read. -/
def Directive.IsOverlong (directive : String) : Prop :=
  ∃ key ∈ ["threshold", "limit"], ∃ value,
    (Directive.split directive).get? key = some value
      ∧ Number.digitLimit < (frontDigits value).length

/-- Nothing else fails a directive. -/
theorem Directive.exists_parse_eq_error_iff {directive : String} :
    (∃ e, Directive.parse (R := R) directive = .error e) ↔ Directive.IsOverlong directive := by
  have hread : (∃ e, Directive.parse (R := R) directive = .error e)
      ↔ ¬ ∃ c : Config R, Directive.parse directive = .ok c := by
    cases Directive.parse (R := R) directive with
    | error e => simp
    | ok c => simp
  rw [hread, Directive.parse, RawSettings.exists_config_eq_ok_iff, exists_countOr_eq_ok_iff,
    exists_countOr_eq_ok_iff]
  simp [RawSettings.ofEntries, Directive.IsOverlong, imp_iff_not_or]

/-- A directive is read unless a threshold or a limit has more digits than are read, and then every
key for which nothing is said has its usual settings. -/
theorem Directive.exists_parse_eq_ok_iff (directive : String) :
    (∃ c : Config R, Directive.parse directive = .ok c
        ∧ c.LeavesUsual (Directive.split directive))
      ↔ ∀ key ∈ ["threshold", "limit"], ∀ value,
          (Directive.split directive).get? key = some value →
            (frontDigits value).length ≤ Number.digitLimit := by
  have hread : (∃ c : Config R, Directive.parse directive = .ok c
        ∧ c.LeavesUsual (Directive.split directive))
      ↔ ∃ c : Config R, Directive.parse directive = .ok c := by
    refine exists_congr fun c => and_iff_left_of_imp fun hc => ?_
    exact RawSettings.leavesUsual_of_config hc
  rw [hread, Directive.parse, RawSettings.exists_config_eq_ok_iff, exists_countOr_eq_ok_iff,
    exists_countOr_eq_ok_iff]
  simp [RawSettings.ofEntries]

end

/-- A threshold that is read by itself fails the directive when it is too long, in the digits of
any script. -/
theorem Directive.parse_eq_error_of_long {R : Type} [Magnitude R] {digits : List Char}
    (hdigits : IsDigits digits) (hlong : Number.digitLimit < digits.length) :
    Directive.parse (R := R) (String.ofList ("threshold:".toList ++ digits))
      = .error ⟨digits.length⟩ := by
  have hcut : Uncut ("threshold".toList ++ ':' :: digits) := by
    have hword : Uncut "threshold:".toList := uncut_of_plain (by decide) (by decide)
    exact hword.append (uncut_of_digits hdigits)
  have htight : Tight digits := tight_of_forall fun c hc => isBlank_of_isDigit (hdigits c hc)
  have hentry : entry? ("threshold".toList ++ ':' :: digits)
      = some ("threshold", String.ofList digits) := by
    rw [entry?_append (by decide), trim_of_tight htight]
    rfl
  have hsplit : Directive.split (String.ofList ("threshold".toList ++ ':' :: digits))
      = [("threshold", String.ofList digits)] := by
    rw [split_eq, String.toList_ofList, fragments_of_cut_nil hcut.cutFragment_self,
      List.filterMap_cons_some hentry]
    rfl
  have hfront : frontDigits (String.ofList digits) = digits := by
    rw [frontDigits, String.toList_ofList, List.takeWhile_eq_self_iff.2 hdigits]
  refine RawSettings.config_eq_error (countOr_eq_error_iff.2 ⟨String.ofList digits, ?_, ?_, ?_⟩)
  · exact congrArg (fun entries => (RawSettings.ofEntries entries).threshold) hsplit
  · rwa [hfront]
  · rw [hfront]

/-- A threshold of 4301 digits fails the directive. -/
theorem Directive.long_threshold_refused :
    Directive.parse (R := Float) (String.ofList ("threshold:".toList ++ List.replicate 4301 '1'))
      = .error ⟨4301⟩ := by
  have hdigits : IsDigits (List.replicate 4301 '1') :=
    fun c hc => List.eq_of_mem_replicate hc ▸ by decide
  have hlong := Directive.parse_eq_error_of_long (R := Float) hdigits
  rw [List.length_replicate] at hlong
  exact hlong (by decide)

end TagCloud
