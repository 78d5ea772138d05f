import Mathlib.Data.List.Perm.Basic
import TagCloud.Proofs.Dictionary
import TagCloud.Proofs.Directive.Values
import TagCloud.Proofs.Outcome

/-!
# Directives that are written out

A directive says at most five things, each in a fragment of its own. The order of the fragments is
free, blanks may stand almost everywhere, and fragments that say nothing may stand among them. None
of this shows in the configuration: a directive that was written out from settings is read as the
configuration with these settings, the usual ones in the place of those that were left out.

What carries the proof is that a fragment can be looked at alone. It is cut off where it ends,
whatever stands around it, and becomes one key with its value. The values of a key are then those of
the fragments with that key, and there is at most one of them.
-/

namespace TagCloud

open scoped List
open TagCloud.Text TagCloud.Directive

/-- One thing that a directive says. -/
inductive Setting where
  | fontSize (size : FontSize)
  | threshold (n : Nat)
  | limit (n : Nat)
  | sort (sorting : Sorting)
  | style (styling : Styling)
  deriving DecidableEq

/-- The key of a setting. -/
def Setting.key : Setting → String
  | .fontSize _ => "font-size"
  | .threshold _ => "threshold"
  | .limit _ => "limit"
  | .sort _ => "sort"
  | .style _ => "style"

/-- The keys of the language. -/
def settingKeys : List String :=
  ["font-size", "threshold", "limit", "sort", "style"]

/-- A value as it may be written for a setting. -/
inductive Setting.Value : Setting → List Char → Prop
  | fontSize {a b : Numeral} {unit : SizeUnit} {gap₁ gap₂ gap₃ : List Char}
      (ha : a.Proper) (hb : b.Proper) (hunit : unit = .percent ∨ unit = .em ∨ unit = .px)
      (h₁ : AllBlank gap₁) (h₂ : AllBlank gap₂) (h₃ : AllBlank gap₃) :
      Value (.fontSize ⟨a, b, unit⟩)
        (a.text ++ (gap₁ ++ '-' :: (gap₂ ++ (b.text ++ (gap₃ ++ unit.name.toList)))))
  | threshold {digits : List Char} (hne : digits ≠ []) (hdigits : IsDigits digits)
      (hlength : digits.length ≤ Number.digitLimit) : Value (.threshold (number digits)) digits
  | limit {digits : List Char} (hne : digits ≠ []) (hdigits : IsDigits digits)
      (hlength : digits.length ≤ Number.digitLimit) : Value (.limit (number digits)) digits
  | mode {mode : Mode} (hmode : mode = .freq ∨ mode = .rand ∨ mode = .alpha) :
      Value (.sort ⟨mode, none⟩) mode.name.toList
  | direction {mode : Mode} {direction : Direction} {gap : List Char}
      (hmode : mode = .freq ∨ mode = .rand ∨ mode = .alpha)
      (hdirection : direction = .asc ∨ direction = .desc) (hne : gap ≠ []) (hgap : AllBlank gap) :
      Value (.sort ⟨mode, some direction⟩) (mode.name.toList ++ (gap ++ direction.name.toList))
  | style {style : Style} (hstyle : style = .list ∨ style = .para) :
      Value (.style ⟨style, none⟩) style.name.toList
  | separator {style : Style} {separator : String} {gap : List Char}
      (hstyle : style = .list ∨ style = .para) (hgap : AllBlank gap)
      (hseparator : '}' ∉ separator.toList) :
      Value (.style ⟨style, some separator⟩)
        (style.name.toList ++ (gap ++ '{' :: (separator.toList ++ ['}'])))

/-- A fragment as it may be written: for a setting its key, a colon and its value with blanks around
them, and for nothing a text without commas and opening braces that has no colon or none of the keys
of the language before it. -/
inductive Fragment : Option Setting → List Char → Prop
  | setting {s : Setting} {value gap₁ gap₂ gap₃ gap₄ : List Char} (hvalue : s.Value value)
      (h₁ : AllBlank gap₁) (h₂ : AllBlank gap₂) (h₃ : AllBlank gap₃) (h₄ : AllBlank gap₄) :
      Fragment (some s)
        (gap₁ ++ s.key.toList ++ gap₂ ++ ':' :: (gap₃ ++ value ++ gap₄))
  | idle {text : List Char} (hcomma : ',' ∉ text) (hbrace : '{' ∉ text)
      (hkey : ∀ key value, text = key ++ ':' :: value → ':' ∉ key →
        String.ofList (trim key) ∉ settingKeys) :
      Fragment none text

/-- What a directive may say, each thing at most once. -/
structure Settings where
  fontSize : Option FontSize
  threshold : Option Nat
  limit : Option Nat
  sort : Option Sorting
  style : Option Styling

namespace Settings

/-- The things that are said. -/
def toList (s : Settings) : List Setting :=
  (s.fontSize.map Setting.fontSize).toList ++ (s.threshold.map Setting.threshold).toList
    ++ (s.limit.map Setting.limit).toList ++ (s.sort.map Setting.sort).toList
    ++ (s.style.map Setting.style).toList

/-- The configuration with some settings, and with the usual ones where nothing is said. -/
def config {R : Type} [Magnitude R] (s : Settings) : Config R where
  sizeMin :=
    match s.fontSize with
    | some size => .real size.least.magnitude
    | none => .whole 70
  sizeMax :=
    match s.fontSize with
    | some size => .real size.greatest.magnitude
    | none => .whole 170
  precision :=
    match s.fontSize with
    | some size => max size.least.fraction.length size.greatest.fraction.length
    | none => 0
  unit :=
    match s.fontSize with
    | some size => size.unit
    | none => .percent
  threshold :=
    match s.threshold with
    | some n => n
    | none => 1
  limit :=
    match s.limit with
    | some n => n
    | none => 0
  sort :=
    match s.sort with
    | some sorting => sorting.mode
    | none => .alpha
  order :=
    match s.sort with
    | some ⟨_, some direction⟩ => direction
    | some ⟨.freq, none⟩ => .desc
    | _ => .asc
  style :=
    match s.style with
    | some styling => styling.style
    | none => .list
  tagBefore :=
    match s.style with
    | some ⟨.para, _⟩ => ""
    | _ => "<li>"
  tagAfter :=
    match s.style with
    | some ⟨.para, _⟩ => ""
    | _ => "</li>"
  separator :=
    match s.style with
    | some ⟨.para, some separator⟩ => separator
    | some ⟨.para, none⟩ => ", "
    | _ => ""

end Settings

/-- A number may be written with its own digits. -/
theorem Setting.value_toDigits {n : Nat} (h : (Nat.toDigits 10 n).length ≤ Number.digitLimit) :
    (Setting.threshold n).Value (Nat.toDigits 10 n)
      ∧ (Setting.limit n).Value (Nat.toDigits 10 n) := by
  have hthreshold := Setting.Value.threshold Nat.toDigits_ne_nil (isDigits_toDigits n) h
  have hlimit := Setting.Value.limit Nat.toDigits_ne_nil (isDigits_toDigits n) h
  rw [number_toDigits] at hthreshold hlimit
  exact ⟨hthreshold, hlimit⟩

/-! ## One fragment -/

theorem Setting.key_mem (s : Setting) : s.key ∈ settingKeys := by
  cases s with
  | fontSize size => simp [key, settingKeys]
  | threshold n => simp [key, settingKeys]
  | limit n => simp [key, settingKeys]
  | sort sorting => simp [key, settingKeys]
  | style styling => simp [key, settingKeys]

theorem Setting.key_plain (s : Setting) :
    ',' ∉ s.key.toList ∧ '{' ∉ s.key.toList ∧ ':' ∉ s.key.toList ∧ Tight s.key.toList := by
  have htight : ∀ key ∈ settingKeys, ',' ∉ key.toList ∧ '{' ∉ key.toList ∧ ':' ∉ key.toList
      ∧ (∀ c ∈ key.toList.head?, isBlank c = false)
      ∧ ∀ c ∈ key.toList.getLast?, isBlank c = false := by decide
  obtain ⟨hcomma, hbrace, hcolon, hhead, hlast⟩ := htight s.key s.key_mem
  exact ⟨hcomma, hbrace, hcolon, hhead, hlast⟩

theorem uncut_of_forall {p : Char → Bool} {cs : List Char} (h : ∀ c ∈ cs, p c = true)
    (hcomma : p ',' = false) (hbrace : p '{' = false) : Uncut cs := by
  refine uncut_of_plain (fun hmem => ?_) (fun hmem => ?_)
  · rw [h _ hmem] at hcomma
    exact absurd hcomma (by simp)
  · rw [h _ hmem] at hbrace
    exact absurd hbrace (by simp)

theorem uncut_of_blank {gap : List Char} (h : AllBlank gap) : Uncut gap :=
  uncut_of_forall h (by decide) (by decide)

theorem uncut_of_digits {digits : List Char} (h : IsDigits digits) : Uncut digits :=
  uncut_of_forall h (by decide) (by decide)

theorem uncut_text {n : Numeral} (hn : n.Proper) : Uncut n.text :=
  uncut_of_forall (fun _ => Numeral.inNumeral_of_mem_text hn) (by decide) (by decide)

/-- The words that values are written with. -/
def languageWords : List String :=
  ["%", "em", "px", "freq", "rand", "alpha", "asc", "desc", "list", "para"]

/-- A word of the language is not cut and has no blanks at its ends. -/
theorem word_solid {word : String} (h : word ∈ languageWords) :
    Uncut word.toList ∧ Tight word.toList ∧ word.toList ≠ [] := by
  have hall : ∀ word ∈ languageWords,
      ',' ∉ word.toList ∧ '{' ∉ word.toList ∧ (∀ c ∈ word.toList, isBlank c = false)
        ∧ word.toList ≠ [] := by decide
  obtain ⟨hcomma, hbrace, hblank, hne⟩ := hall word h
  exact ⟨uncut_of_plain hcomma hbrace, tight_of_forall hblank, hne⟩

theorem unit_mem {unit : SizeUnit} (h : unit = .percent ∨ unit = .em ∨ unit = .px) :
    unit.name ∈ languageWords := by
  rcases h with rfl | rfl | rfl
  · simp [SizeUnit.name, languageWords]
  · simp [SizeUnit.name, languageWords]
  · simp [SizeUnit.name, languageWords]

theorem mode_mem {mode : Mode} (h : mode = .freq ∨ mode = .rand ∨ mode = .alpha) :
    mode.name ∈ languageWords := by
  rcases h with rfl | rfl | rfl
  · simp [Mode.name, languageWords]
  · simp [Mode.name, languageWords]
  · simp [Mode.name, languageWords]

theorem direction_mem {direction : Direction} (h : direction = .asc ∨ direction = .desc) :
    direction.name ∈ languageWords := by
  rcases h with rfl | rfl
  · simp [Direction.name, languageWords]
  · simp [Direction.name, languageWords]

theorem style_mem {style : Style} (h : style = .list ∨ style = .para) :
    style.name ∈ languageWords := by
  rcases h with rfl | rfl
  · simp [Style.name, languageWords]
  · simp [Style.name, languageWords]

/-- A value is not cut and has no blanks at its ends. -/
theorem Setting.Value.solid {s : Setting} {value : List Char} (h : s.Value value) :
    Uncut value ∧ Tight value := by
  have hnumeral : ∀ {n : Numeral}, n.Proper → Tight n.text := fun hn =>
    tight_of_forall fun _ hc => isBlank_of_inNumeral (Numeral.inNumeral_of_mem_text hn hc)
  have hdash : Uncut ['-'] := uncut_of_plain (by decide) (by decide)
  cases h with
  | @fontSize a b unit gap₁ gap₂ gap₃ ha hb hunit h₁ h₂ h₃ =>
      obtain ⟨hcut, htight, hne⟩ := word_solid (unit_mem hunit)
      constructor
      · exact (uncut_text ha).append ((uncut_of_blank h₁).append (hdash.append
          ((uncut_of_blank h₂).append ((uncut_text hb).append ((uncut_of_blank h₃).append hcut)))))
      · have hends := (hnumeral ha).append htight (Numeral.text_ne_nil ha) hne
          (gap₁ ++ '-' :: (gap₂ ++ (b.text ++ gap₃)))
        simpa using hends
  | threshold hne hdigits hlength =>
      exact ⟨uncut_of_digits hdigits, tight_of_forall fun c hc => isBlank_of_isDigit (hdigits c hc)⟩
  | limit hne hdigits hlength =>
      exact ⟨uncut_of_digits hdigits, tight_of_forall fun c hc => isBlank_of_isDigit (hdigits c hc)⟩
  | mode hmode =>
      obtain ⟨hcut, htight, -⟩ := word_solid (mode_mem hmode)
      exact ⟨hcut, htight⟩
  | direction hmode hdirection hne hgap =>
      obtain ⟨hcut, htight, hne⟩ := word_solid (mode_mem hmode)
      obtain ⟨hcut', htight', hne'⟩ := word_solid (direction_mem hdirection)
      exact ⟨hcut.append ((uncut_of_blank hgap).append hcut'), htight.append htight' hne hne' _⟩
  | style hstyle =>
      obtain ⟨hcut, htight, -⟩ := word_solid (style_mem hstyle)
      exact ⟨hcut, htight⟩
  | @separator _ separator gap hstyle hgap hseparator =>
      obtain ⟨hcut, htight, hne⟩ := word_solid (style_mem hstyle)
      have hbrace : Tight ['}'] := tight_of_forall (by decide)
      have hends := htight.append hbrace hne (by simp) (gap ++ '{' :: separator.toList)
      refine ⟨hcut.append ((uncut_of_blank hgap).append (uncut_group hseparator)), ?_⟩
      simpa using hends

theorem Fragment.uncut {mark : Option Setting} {text : List Char} (h : Fragment mark text) :
    Uncut text := by
  cases h with
  | @setting s value gap₁ gap₂ gap₃ gap₄ hvalue h₁ h₂ h₃ h₄ =>
      obtain ⟨hcomma, hbrace, -, -⟩ := s.key_plain
      have hkey : Uncut s.key.toList := uncut_of_plain hcomma hbrace
      have hcolon : Uncut [':'] := uncut_of_plain (by decide) (by decide)
      exact (((uncut_of_blank h₁).append hkey).append (uncut_of_blank h₂)).append
        (hcolon.append (((uncut_of_blank h₃).append hvalue.solid.1).append (uncut_of_blank h₄)))
  | idle hcomma hbrace hkey => exact uncut_of_plain hcomma hbrace

/-- The fragment of a setting has its key and its value. -/
theorem Fragment.entry?_setting {s : Setting} {text : List Char} (h : Fragment (some s) text) :
    ∃ value, s.Value value ∧ entry? text = some (s.key, String.ofList value) := by
  cases h with
  | @setting s value gap₁ gap₂ gap₃ gap₄ hvalue h₁ h₂ h₃ h₄ =>
      obtain ⟨-, -, hcolon, htight⟩ := s.key_plain
      refine ⟨value, hvalue, ?_⟩
      rw [entry?_blanks hcolon h₁ h₂ h₃ h₄, entry?_append hcolon, trim_of_tight htight,
        trim_of_tight hvalue.solid.2, String.ofList_toList]

/-- An idle fragment has no key of the language. -/
theorem Fragment.entry?_idle {text : List Char} (h : Fragment none text) :
    ∀ entry ∈ entry? text, entry.1 ∉ settingKeys := by
  cases h with
  | idle hcomma hbrace hkey =>
      intro entry hentry
      by_cases hcolon : ':' ∈ text
      · obtain ⟨key, value, rfl, hfree⟩ := List.eq_append_cons_of_mem hcolon
        rw [entry?_append hfree, Option.mem_some_iff] at hentry
        rw [← hentry]
        exact hkey key value rfl hfree
      · rw [ entry?, atColon_eq_none_iff.2 hcolon] at hentry
        exact absurd hentry (by simp)

/-! ## All fragments -/

/-- A setting and a raw value that was written for it. -/
def Setting.WrittenAs (s : Setting) (raw : String) : Prop :=
  ∃ value, s.Value value ∧ raw = String.ofList value

section

variable {marks : List (Option Setting)} {texts : List (List Char)} {key : String}

/-- The entries with a key are those of the settings with that key. -/
theorem entries_of_key (h : List.Forall₂ Fragment marks texts) (hkey : key ∈ settingKeys) :
    List.Forall₂ (fun s entry => s.WrittenAs entry.2)
      ((marks.filterMap id).filter (·.key = key))
      ((texts.filterMap entry?).filter (·.1 = key)) := by
  induction h with
  | nil => exact List.Forall₂.nil
  | @cons mark text marks texts hfragment _ ih =>
      cases mark with
      | none =>
          rw [List.filterMap_cons_none rfl, List.filterMap_cons]
          split
          · exact ih
          · next entry hentry =>
              have hother : entry.1 ≠ key := by
                rintro rfl
                exact hfragment.entry?_idle entry hentry hkey
              rw [List.filter_cons_of_neg (by simpa using hother)]
              exact ih
      | some s =>
          obtain ⟨value, hvalue, hentry⟩ := hfragment.entry?_setting
          rw [List.filterMap_cons_some (f := id) (b := s) rfl, List.filterMap_cons_some hentry]
          by_cases hs : s.key = key
          · rw [List.filter_cons_of_pos (by simpa using hs),
              List.filter_cons_of_pos (by simpa using hs)]
            exact List.Forall₂.cons ⟨value, hvalue, rfl⟩ ih
          · rw [List.filter_cons_of_neg (by simpa using hs),
              List.filter_cons_of_neg (by simpa using hs)]
            exact ih

theorem entries_of_intercalate (h : List.Forall₂ Fragment marks texts) :
    (fragments ([','].intercalate texts)).filterMap entry? = texts.filterMap entry? := by
  have huncut : ∀ text ∈ texts, Uncut text := by
    intro text htext
    obtain ⟨mark, -, hfragment⟩ := exists_of_mem_forall₂ h htext
    exact hfragment.uncut
  by_cases hne : texts = []
  · have hcut : cutFragment [] = ([], []) := by rw [cutFragment]
    rw [hne, List.intercalate_nil, fragments_of_cut_nil hcut]
    rfl
  · rw [fragments_intercalate hne huncut]

/-- A key has the value that was written for the one setting with that key, if there is one. -/
theorem get?_split {settings : Settings} {said : Option Setting}
    (h : List.Forall₂ Fragment marks texts) (hperm : marks.filterMap id ~ settings.toList)
    (hkey : key ∈ settingKeys) (hsaid : settings.toList.filter (·.key = key) = said.toList) :
    Option.Rel Setting.WrittenAs said
      ((split (String.ofList ([','].intercalate texts))).get? key) := by
  have hone : (marks.filterMap id).filter (·.key = key) = said.toList := by
    have hfilter := hperm.filter (·.key = key)
    rw [hsaid] at hfilter
    cases said with
    | none => exact List.Perm.eq_nil hfilter
    | some s => exact List.perm_singleton.1 hfilter
  have hentries := entries_of_key h hkey
  rw [hone] at hentries
  rw [split_eq, String.toList_ofList, entries_of_intercalate h, Dictionary.get?_ofList]
  cases said with
  | none =>
      rw [Option.toList_none, List.forall₂_nil_left_iff] at hentries
      rw [hentries]
      exact Option.Rel.none
  | some s =>
      rw [Option.toList_some, List.forall₂_cons_left_iff] at hentries
      obtain ⟨entry, rest, hentry, hrest, hall⟩ := hentries
      rw [List.forall₂_nil_left_iff] at hrest
      rw [hall, hrest]
      exact Option.Rel.some hentry

end

/-! ## The configuration -/

theorem Setting.WrittenAs.parse_fontSize {size : FontSize} {raw : String}
    (h : (Setting.fontSize size).WrittenAs raw) : FontSize.parse raw = some size := by
  obtain ⟨value, hvalue, rfl⟩ := h
  cases hvalue with
  | fontSize ha hb hunit h₁ h₂ h₃ => exact FontSize.parse_written ha hb hunit h₁ h₂ h₃

theorem Setting.WrittenAs.parse_threshold {n : Nat} {raw : String}
    (h : (Setting.threshold n).WrittenAs raw) : parseCount raw = .ok (some n) := by
  obtain ⟨value, hvalue, rfl⟩ := h
  cases hvalue with
  | threshold hne hdigits hlength => exact parseCount_written hne hdigits hlength

theorem Setting.WrittenAs.parse_limit {n : Nat} {raw : String}
    (h : (Setting.limit n).WrittenAs raw) : parseCount raw = .ok (some n) := by
  obtain ⟨value, hvalue, rfl⟩ := h
  cases hvalue with
  | limit hne hdigits hlength => exact parseCount_written hne hdigits hlength

theorem Setting.WrittenAs.parse_sort {sorting : Sorting} {raw : String}
    (h : (Setting.sort sorting).WrittenAs raw) : Sorting.parse raw = some sorting := by
  obtain ⟨value, hvalue, rfl⟩ := h
  cases hvalue with
  | mode hmode => rw [String.ofList_toList]; exact Sorting.parse_mode hmode
  | direction hmode hdirection hne hgap => exact Sorting.parse_written hmode hdirection hne hgap

theorem Setting.WrittenAs.parse_style {styling : Styling} {raw : String}
    (h : (Setting.style styling).WrittenAs raw) : Styling.parse raw = some styling := by
  obtain ⟨value, hvalue, rfl⟩ := h
  cases hvalue with
  | style hstyle => rw [String.ofList_toList]; exact Styling.parse_style hstyle
  | separator hstyle hgap hseparator => exact Styling.parse_written _ hstyle hgap

/-- What is read of raw values that were written is what they were written from. -/
theorem bind_of_writtenAs {α : Type} {f : α → Setting} {read : String → Option α} {said : Option α}
    {raw : Option String} (hread : ∀ {a raw}, (f a).WrittenAs raw → read raw = some a)
    (h : Option.Rel Setting.WrittenAs (said.map f) raw) : raw.bind read = said := by
  cases said with
  | none =>
      cases h with
      | none => rfl
  | some a =>
      cases h with
      | some hwritten => exact hread hwritten

theorem countOr_of_writtenAs {f : Nat → Setting} {said : Option Nat} {raw : Option String}
    (usual : Nat) (hread : ∀ {n raw}, (f n).WrittenAs raw → parseCount raw = .ok (some n))
    (h : Option.Rel Setting.WrittenAs (said.map f) raw) :
    countOr usual raw = .ok (said.getD usual) := by
  cases said with
  | none =>
      cases h with
      | none => rfl
  | some n =>
      cases h with
      | some hwritten => rw [countOr, hread hwritten]; rfl

/-- Among the things that are said, those of one kind are told by their key. -/
theorem filter_key {α : Type} (f : α → Setting) (name : String) (hf : ∀ a, (f a).key = name)
    (said : Option α) (key : String) :
    (said.map f).toList.filter (·.key = key)
      = if name = key then (said.map f).toList else [] := by
  cases said with
  | none => simp
  | some a =>
      rw [Option.map_some, Option.toList_some, List.filter_singleton, hf a]
      simp

theorem Settings.filter_toList (s : Settings) (key : String) :
    s.toList.filter (·.key = key)
      = (if "font-size" = key then (s.fontSize.map Setting.fontSize).toList else [])
        ++ (if "threshold" = key then (s.threshold.map Setting.threshold).toList else [])
        ++ (if "limit" = key then (s.limit.map Setting.limit).toList else [])
        ++ (if "sort" = key then (s.sort.map Setting.sort).toList else [])
        ++ (if "style" = key then (s.style.map Setting.style).toList else []) := by
  simp only [toList, List.filter_append]
  rw [filter_key .fontSize "font-size" fun _ => rfl, filter_key .threshold "threshold" fun _ => rfl,
    filter_key .limit "limit" fun _ => rfl, filter_key .sort "sort" fun _ => rfl,
    filter_key .style "style" fun _ => rfl]

section

variable {R : Type} [Magnitude R]

theorem RawSettings.config_eq {raw : RawSettings} {s : Settings}
    (hfontSize : raw.fontSize.bind FontSize.parse = s.fontSize)
    (hthreshold : countOr 1 raw.threshold = .ok (s.threshold.getD 1))
    (hlimit : countOr 0 raw.limit = .ok (s.limit.getD 0))
    (hsort : raw.sort.bind Sorting.parse = s.sort)
    (hstyle : raw.style.bind Styling.parse = s.style) :
    raw.config (R := R) = .ok s.config := by
  obtain ⟨fontSize, threshold, limit, sort, style⟩ := s
  simp only at hfontSize hthreshold hlimit hsort hstyle
  simp only [config, hfontSize, hthreshold, hlimit, hsort, hstyle, bind, Except.bind, pure,
    Except.pure, Settings.config]
  congr 2
  case e_sizeMin => cases fontSize <;> rfl
  case e_sizeMax => cases fontSize <;> rfl
  case e_precision => cases fontSize <;> rfl
  case e_unit => cases fontSize <;> rfl
  case e_threshold => cases threshold <;> rfl
  case e_limit => cases limit <;> rfl
  case e_sort => cases sort <;> rfl
  case e_order =>
    rcases sort with _ | ⟨mode, _ | direction⟩
    · rfl
    · cases mode <;> rfl
    · rfl
  case e_style => cases style <;> rfl
  case e_tagBefore =>
    rcases style with _ | ⟨style, separator⟩
    · rfl
    · cases style <;> rfl
  case e_tagAfter =>
    rcases style with _ | ⟨style, separator⟩
    · rfl
    · cases style <;> rfl
  case e_separator =>
    rcases style with _ | ⟨style, _ | separator⟩
    · rfl
    · cases style <;> rfl
    · cases style <;> rfl

/-- A directive that says only a font size is read as the configuration with this font size. -/
theorem Directive.parse_fontSize {size : FontSize} {text : List Char}
    (h : Fragment (some (.fontSize size)) text) :
    Directive.parse (R := R) (String.ofList text)
      = .ok (Settings.mk (some size) none none none none).config := by
  obtain ⟨value, hvalue, hentry⟩ := h.entry?_setting
  have hentries := entries_of_intercalate (.cons h .nil)
  rw [List.intercalate_singleton, List.filterMap_cons_some hentry, List.filterMap_nil] at hentries
  have hsplit : split (String.ofList text)
      = Dictionary.ofList [("font-size", String.ofList value)] := by
    rw [split_eq, String.toList_ofList, hentries]
    rfl
  rw [Directive.parse, hsplit]
  refine RawSettings.config_eq ?_ rfl rfl rfl rfl
  exact Setting.WrittenAs.parse_fontSize ⟨value, hvalue, rfl⟩

/-- A directive that was written out from settings is read as the configuration with these settings,
in whatever order they stand and whatever idle fragments stand among them. -/
theorem Directive.parse_fragments {settings : Settings} {marks : List (Option Setting)}
    {texts : List (List Char)} (hwritten : List.Forall₂ Fragment marks texts)
    (hperm : marks.filterMap id ~ settings.toList) :
    Directive.parse (R := R) (String.ofList ([','].intercalate texts)) = .ok settings.config := by
  have hget : ∀ {key : String} {said : Option Setting}, key ∈ settingKeys →
      settings.toList.filter (·.key = key) = said.toList →
      Option.Rel Setting.WrittenAs said
        ((split (String.ofList ([','].intercalate texts))).get? key) :=
    fun hkey hsaid => get?_split hwritten hperm hkey hsaid
  rw [Directive.parse]
  refine RawSettings.config_eq ?_ ?_ ?_ ?_ ?_
  · refine bind_of_writtenAs Setting.WrittenAs.parse_fontSize (hget (by decide) ?_)
    simp [Settings.filter_toList]
  · refine countOr_of_writtenAs 1 Setting.WrittenAs.parse_threshold (hget (by decide) ?_)
    simp [Settings.filter_toList]
  · refine countOr_of_writtenAs 0 Setting.WrittenAs.parse_limit (hget (by decide) ?_)
    simp [Settings.filter_toList]
  · refine bind_of_writtenAs Setting.WrittenAs.parse_sort (hget (by decide) ?_)
    simp [Settings.filter_toList]
  · refine bind_of_writtenAs Setting.WrittenAs.parse_style (hget (by decide) ?_)
    simp [Settings.filter_toList]

end

/-- Settings in another order than they are listed in, with blanks and idle fragments, and with a
separator that looks like a directive. -/
theorem Directive.parse_fragments_paragraph :
    ∃ (settings : Settings) (marks : List (Option Setting)) (texts : List (List Char)),
      settings = ⟨some ⟨⟨[], ['5']⟩, ⟨['2'], ['2', '5']⟩, .em⟩, none, some 10,
        some ⟨.freq, some .asc⟩, some ⟨.para, some ", limit: \x7b7"⟩⟩ ∧
      List.Forall₂ Fragment marks texts ∧
      marks.filterMap id ~ settings.toList ∧
      String.ofList ([','].intercalate texts)
        = "style: para \x7b, limit: \x7b7\x7d, colour: red,limit : 10,,sort:freq \n asc,"
          ++ "font-size:.5 -2.25em"
      ∧ Directive.parse (R := Float) (String.ofList ([','].intercalate texts))
        = .ok settings.config := by
  have hblank : AllBlank [' '] := by decide
  have hblanks : AllBlank [' ', '\n', ' '] := by decide
  have hstyle : Fragment (some (.style ⟨.para, some ", limit: \x7b7"⟩)) _ :=
    .setting (.separator (Or.inr rfl) hblank (by decide)) allBlank_nil allBlank_nil hblank
      allBlank_nil
  have hcolour : Fragment none " colour: red".toList := by
    refine .idle (by decide) (by decide) fun key value heq hkey => ?_
    have hentry := entry?_append hkey value
    have hcolour : entry? " colour: red".toList = some ("colour", "red") := by decide
    rw [← heq, hcolour, Option.some.injEq, Prod.mk.injEq] at hentry
    rw [← hentry.1]
    decide
  have hlimit : Fragment (some (.limit 10)) _ :=
    .setting (Setting.value_toDigits (by decide)).2 allBlank_nil hblank hblank allBlank_nil
  have hempty : Fragment none [] := .idle (by decide) (by decide) fun key value h => by simp at h
  have hsort : Fragment (some (.sort ⟨.freq, some .asc⟩)) _ :=
    .setting (.direction (Or.inl rfl) (Or.inl rfl) (by simp) hblanks) allBlank_nil allBlank_nil
      allBlank_nil allBlank_nil
  have hsize : Fragment (some (.fontSize ⟨⟨[], ['5']⟩, ⟨['2'], ['2', '5']⟩, .em⟩)) _ :=
    .setting (.fontSize ⟨by decide, by decide, by decide⟩ ⟨by decide, by decide, by decide⟩
      (Or.inr (Or.inl rfl)) hblank allBlank_nil allBlank_nil) allBlank_nil allBlank_nil
      allBlank_nil allBlank_nil
  have hwritten := List.Forall₂.cons hstyle (.cons hcolour (.cons hlimit (.cons hempty
    (.cons hsort (.cons hsize .nil)))))
  refine ⟨_, _, _, rfl, hwritten, by decide, by decide, ?_⟩
  exact Directive.parse_fragments hwritten (by decide)

end TagCloud
