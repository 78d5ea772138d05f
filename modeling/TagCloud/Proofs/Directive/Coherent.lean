import TagCloud.Directive.Parse
import TagCloud.Proofs.Outcome

/-!
# Configurations that come from directives

A configuration that is built directly may hold any names, wrappers and sizes. One that comes from a
directive may not: its unit, mode, direction and style are those of the language, its wrappers and
its separator are those that go with its style, and its sizes are either both typed or both left as
they are. This module collects these facts, which everything that shows a cloud relies on.
-/

namespace TagCloud

open TagCloud.Text

/-- What holds of the configurations that directives ask for. -/
structure Config.Coherent {R : Type} (c : Config R) : Prop where
  unit : c.unit = .percent ∨ c.unit = .em ∨ c.unit = .px
  sort : c.sort = .alpha ∨ c.sort = .freq ∨ c.sort = .rand
  order : c.order = .asc ∨ c.order = .desc
  wrapping :
    (c.style = .list ∧ c.tagBefore = listTagBefore ∧ c.tagAfter = listTagAfter
        ∧ c.separator = "")
      ∨ (c.style = .para ∧ c.tagBefore = "" ∧ c.tagAfter = "")
  sizes :
    (c.sizeMin = .whole 70 ∧ c.sizeMax = .whole 170 ∧ c.precision = 0)
      ∨ ∃ least greatest, c.sizeMin = .real least ∧ c.sizeMax = .real greatest

/-! ## What a value can hold -/

theorem SizeUnit.read?_known {cs : List Char} {u : SizeUnit} (h : SizeUnit.read? cs = some u) :
    u = .percent ∨ u = .em ∨ u = .px := by
  unfold SizeUnit.read? at h
  split at h
  · exact Or.inl (Option.some.inj h).symm
  · exact Or.inr (Or.inl (Option.some.inj h).symm)
  · exact Or.inr (Or.inr (Option.some.inj h).symm)
  · exact absurd h (by simp)

theorem FontSize.unit_of_read? {cs : List Char} {size : FontSize}
    (h : FontSize.read? cs = some size) :
    size.unit = .percent ∨ size.unit = .em ∨ size.unit = .px := by
  simp only [FontSize.read?, Option.bind_eq_bind, Option.bind_eq_some_iff] at h
  obtain ⟨⟨least, rest⟩, -, h⟩ := h
  split at h
  · simp only [Option.bind_eq_some_iff, Option.pure_def, Option.some.injEq] at h
    obtain ⟨⟨greatest, rest⟩, -, unit, hunit, rfl⟩ := h
    exact SizeUnit.read?_known hunit
  · exact absurd h (by simp)

/-- A range that is found is read at some place that is not within a number. -/
theorem FontSize.exists_of_find? {cs : List Char} {inNumber : Bool} {size : FontSize}
    (h : FontSize.find? inNumber cs = some size) :
    ∃ front back, cs = front ++ back ∧ (front = [] → inNumber = false)
      ∧ (∀ c ∈ front.getLast?, (isDigit c || c == '.') = false)
      ∧ FontSize.read? back = some size := by
  induction cs generalizing inNumber with
  | nil => exact absurd h (by simp [FontSize.find?])
  | cons c cs ih =>
      rw [FontSize.find?] at h
      split at h
      · next found hfound =>
          split at hfound
          · exact absurd hfound (by simp)
          · next hnumber =>
              rw [Option.some.inj h] at hfound
              exact ⟨[], c :: cs, rfl, fun _ => by simpa using hnumber, by simp, hfound⟩
      · obtain ⟨front, back, rfl, hstart, hlast, hread⟩ := ih h
        refine ⟨c :: front, back, rfl, fun hnil => absurd hnil (by simp), ?_, hread⟩
        cases front with
        | nil => simpa using hstart rfl
        | cons d front => rwa [List.getLast?_cons_cons]

theorem FontSize.unit_of_find? {cs : List Char} {inNumber : Bool} {size : FontSize}
    (h : FontSize.find? inNumber cs = some size) :
    size.unit = .percent ∨ size.unit = .em ∨ size.unit = .px := by
  obtain ⟨front, back, -, -, -, hread⟩ := FontSize.exists_of_find? h
  exact FontSize.unit_of_read? hread

/-- A keyword is one of the words at choice, and it stands at the front as a word of its own. -/
theorem eq_of_keyword? {α : Type} {words : List (String × α)} {cs rest : List Char} {meaning : α}
    (h : keyword? words cs = some (meaning, rest)) :
    ∃ word, (word, meaning) ∈ words ∧ cs = word.toList ++ rest ∧ endsWord rest = true := by
  obtain ⟨⟨word, m⟩, hmem, hfound⟩ := List.exists_of_findSome?_eq_some h
  simp only [Option.map_eq_some_iff, Prod.mk.injEq] at hfound
  obtain ⟨_, hafter, rfl, rfl⟩ := hfound
  unfold afterWord? at hafter
  split at hafter
  · next hbehind =>
      split at hafter
      · next hends =>
          obtain rfl := Option.some.inj hafter
          exact ⟨word, hmem, behind?_eq_some_iff.1 hbehind, hends⟩
      · exact absurd hafter (by simp)
  · exact absurd hafter (by simp)

theorem Sorting.mode_of_parse {value : String} {s : Sorting} (h : Sorting.parse value = some s) :
    s.mode = .alpha ∨ s.mode = .freq ∨ s.mode = .rand := by
  simp only [Sorting.parse, Option.bind_eq_bind, Option.bind_eq_some_iff, Option.pure_def,
    Option.some.injEq] at h
  obtain ⟨⟨mode, rest⟩, hmode, rfl⟩ := h
  obtain ⟨word, hmem, -⟩ := eq_of_keyword? hmode
  simp only [List.mem_cons, Prod.mk.injEq, List.not_mem_nil, or_false] at hmem
  obtain ⟨-, rfl⟩ | ⟨-, rfl⟩ | ⟨-, rfl⟩ := hmem
  · exact Or.inr (Or.inl rfl)
  · exact Or.inr (Or.inr rfl)
  · exact Or.inl rfl

theorem Sorting.direction_of_parse {value : String} {s : Sorting} {d : Direction}
    (h : Sorting.parse value = some s) (hd : s.direction = some d) : d = .asc ∨ d = .desc := by
  simp only [Sorting.parse, Option.bind_eq_bind, Option.bind_eq_some_iff, Option.pure_def,
    Option.some.injEq] at h
  obtain ⟨⟨mode, rest⟩, -, rfl⟩ := h
  simp only [Option.map_eq_some_iff] at hd
  obtain ⟨⟨d', rest'⟩, hd', rfl⟩ := hd
  obtain ⟨word, hmem, -⟩ := eq_of_keyword? hd'
  simp only [List.mem_cons, Prod.mk.injEq, List.not_mem_nil, or_false] at hmem
  obtain ⟨-, rfl⟩ | ⟨-, rfl⟩ := hmem
  · exact Or.inl rfl
  · exact Or.inr rfl

theorem Styling.style_of_parse {value : String} {s : Styling} (h : Styling.parse value = some s) :
    s.style = .list ∨ s.style = .para := by
  simp only [Styling.parse, Option.bind_eq_bind, Option.bind_eq_some_iff, Option.pure_def,
    Option.some.injEq] at h
  obtain ⟨⟨style, rest⟩, hstyle, rfl⟩ := h
  obtain ⟨word, hmem, -⟩ := eq_of_keyword? hstyle
  simp only [List.mem_cons, Prod.mk.injEq, List.not_mem_nil, or_false] at hmem
  obtain ⟨-, rfl⟩ | ⟨-, rfl⟩ := hmem
  · exact Or.inl rfl
  · exact Or.inr rfl

theorem Mode.usualDirection_known (mode : Mode) :
    mode.usualDirection = .asc ∨ mode.usualDirection = .desc := by
  cases mode with
  | freq => exact Or.inr rfl
  | alpha => exact Or.inl rfl
  | rand => exact Or.inl rfl
  | other name => exact Or.inl rfl

/-! ## What a configuration can hold -/

section

variable {R : Type} [Magnitude R]

theorem RawSettings.coherent_of_config {raw : RawSettings} {c : Config R}
    (h : raw.config = .ok c) : c.Coherent := by
  simp only [RawSettings.config, bind_eq_ok, pure_eq_ok] at h
  obtain ⟨threshold, -, limit, -, rfl⟩ := h
  refine ⟨?_, ?_, ?_, ?_, ?_⟩
  · cases hsize : raw.fontSize.bind FontSize.parse with
    | none => exact Or.inl rfl
    | some size =>
        obtain ⟨value, -, hvalue⟩ := Option.bind_eq_some_iff.1 hsize
        exact FontSize.unit_of_find? hvalue
  · cases hsorting : raw.sort.bind Sorting.parse with
    | none => exact Or.inl rfl
    | some s =>
        obtain ⟨value, -, hvalue⟩ := Option.bind_eq_some_iff.1 hsorting
        exact Sorting.mode_of_parse hvalue
  · cases hsorting : raw.sort.bind Sorting.parse with
    | none => exact Or.inl rfl
    | some s =>
        obtain ⟨value, -, hvalue⟩ := Option.bind_eq_some_iff.1 hsorting
        cases hd : s.direction with
        | none => simpa [hd] using Mode.usualDirection_known s.mode
        | some d => simpa [hd] using Sorting.direction_of_parse hvalue hd
  · cases hstyling : raw.style.bind Styling.parse with
    | none => exact Or.inl ⟨rfl, rfl, rfl, rfl⟩
    | some s =>
        obtain ⟨value, -, hvalue⟩ := Option.bind_eq_some_iff.1 hstyling
        rcases Styling.style_of_parse hvalue with hstyle | hstyle
        · left
          simp [hstyle, Style.wrapping]
        · right
          simp [hstyle, Style.wrapping]
  · cases hsize : raw.fontSize.bind FontSize.parse with
    | none => exact Or.inl ⟨rfl, rfl, rfl⟩
    | some size => exact Or.inr ⟨_, _, rfl, rfl⟩

/-- A configuration that a directive asks for is coherent. -/
theorem Directive.coherent_of_parse {directive : String} {c : Config R}
    (h : Directive.parse directive = .ok c) : c.Coherent :=
  RawSettings.coherent_of_config h

/-! ## The check of a draft -/

/-- A draft with a font size that was found. -/
def Draft.withSize (d : Draft R) : Option FontSize → Draft R
  | none => d
  | some s =>
    { d with
      sizeMin := .real s.least.magnitude
      sizeMax := .real s.greatest.magnitude
      precision := s.precision
      unit := s.unit }

/-- A draft with a mode that was found. The direction is settled along with it. -/
def Draft.withSorting (d : Draft R) : Option Sorting → Draft R
  | none => d
  | some s => { d with sort := s.mode, order := s.direction.getD s.mode.usualDirection }

/-- A draft with a style that was found, which has the last word on wrappers and separator. -/
def Draft.withStyling (d : Draft R) : Option Styling → Draft R
  | none => d
  | some s =>
    let (before, after, separator) := s.style.wrapping s.separator
    { d with style := s.style, tagBefore := before, tagAfter := after, separator }

/-- The draft that raw values ask for: what is found for each key, put over the usual settings. -/
def RawSettings.draft (raw : RawSettings) : Except Number.TooManyDigits (Draft R) := do
  let threshold ← countOr 1 raw.threshold
  let limit ← countOr 0 raw.limit
  let counted : Draft R :=
    { (Draft.initial R).withSize (raw.fontSize.bind FontSize.parse) with threshold, limit }
  return (counted.withSorting (raw.sort.bind Sorting.parse)).withStyling
    (raw.style.bind Styling.parse)

/-- The draft that a directive asks for. -/
def Directive.draft (directive : String) : Except Number.TooManyDigits (Draft R) :=
  (RawSettings.ofEntries (Directive.split directive)).draft

/-- No number of a draft is below zero. -/
structure Draft.IsNatural {R : Type} (d : Draft R) : Prop where
  precision : 0 ≤ d.precision
  threshold : 0 ≤ d.threshold
  limit : 0 ≤ d.limit

theorem natural_natCast (setting : String) (n : Nat) : natural setting n = .ok n := by
  rw [natural, if_neg (by omega), Int.toNat_natCast]

theorem nonneg_of_natural {setting : String} {value : Int} {n : Nat}
    (h : natural setting value = .ok n) : 0 ≤ value := by
  rw [natural] at h
  split at h
  · exact absurd h (by simp)
  · omega

theorem Draft.isNatural_of_check {R : Type} {d : Draft R} {c : Config R} (h : d.check = .ok c) :
    d.IsNatural := by
  simp only [Draft.check, bind_eq_ok] at h
  obtain ⟨_, hprecision, _, hthreshold, _, hlimit, -⟩ := h
  exact ⟨nonneg_of_natural hprecision, nonneg_of_natural hthreshold, nonneg_of_natural hlimit⟩

/-- Put over the usual settings, what is found for the keys makes up the same configuration as when
every setting is chosen by itself. -/
theorem RawSettings.exists_draft_of_config {raw : RawSettings} {c : Config R}
    (h : raw.config = .ok c) : ∃ d : Draft R, raw.draft = .ok d ∧ d.check = .ok c := by
  simp only [RawSettings.config, bind_eq_ok, pure_eq_ok] at h
  obtain ⟨threshold, hthreshold, limit, hlimit, rfl⟩ := h
  simp only [RawSettings.draft, hthreshold, hlimit]
  refine ⟨_, rfl, ?_⟩
  simp only [Draft.check, bind_eq_ok, pure_eq_ok]
  refine ⟨((raw.fontSize.bind FontSize.parse).map (·.precision)).getD 0, ?_, threshold, ?_, limit,
    ?_, ?_⟩
  -- A setting is the same either way, whatever is found for a key and if nothing is.
  all_goals
    cases raw.fontSize.bind FontSize.parse <;> cases raw.sort.bind Sorting.parse
      <;> cases raw.style.bind Styling.parse <;> first | exact natural_natCast _ _ | rfl

/-- A configuration that a directive asks for has passed the check of its draft, in which no number
is below zero. -/
theorem Directive.exists_draft_of_parse {directive : String} {c : Config R}
    (h : Directive.parse directive = .ok c) :
    ∃ d : Draft R, Directive.draft directive = .ok d ∧ d.IsNatural ∧ d.check = .ok c := by
  obtain ⟨d, hd, hcheck⟩ := RawSettings.exists_draft_of_config h
  exact ⟨d, hd, Draft.isNatural_of_check hcheck, hcheck⟩

end

end TagCloud
