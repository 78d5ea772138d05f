import Mathlib.Logic.Relation
import TagCloud.Proofs.Directive.Scanned
import TagCloud.Proofs.Directive.Written

/-!
# Settings that do not interfere

Of all that a directive says, the last value of each key is what counts, and each key settles its
own part of the configuration: no part depends on the value of another key, not even where a choice
is made late. So two directives with the same last values ask for the same configuration, and two
that differ in the value of one key ask for configurations that differ in the part of that key.

Which changes of a directive keep the last values is said for its pieces, one change at a time:
pieces with different keys may change places, pieces without a key of the language may come in,
and so may a piece before another one with the same key, and blanks may be put around keys and
values. What a value is worth plays no part in this, so a last value that is refused still stands
in the way of the ones before it.
-/

namespace TagCloud

open TagCloud.Text TagCloud.Directive

namespace Directive

/-- The key of a piece, if it has one. -/
def keyOf? (piece : List Char) : Option String :=
  (keyAndValue? piece).map (·.1)

/-- The value of the last of some pieces that has a key. -/
def lastValue? (key : String) (texts : List (List Char)) : Option String :=
  ((texts.filterMap keyAndValue?).filter (·.1 = key)).getLast?.map (·.2)

/-- A change of the pieces of a directive that does not show. -/
inductive Change : List (List Char) → List (List Char) → Prop
  | swap (front back : List (List Char)) {p q : List Char} (h : keyOf? p ≠ keyOf? q) :
      Change (front ++ p :: q :: back) (front ++ q :: p :: back)
  | idle (front back : List (List Char)) {p : List Char}
      (h : ∀ key ∈ keyOf? p, key ∉ settingKeys) : Change (front ++ back) (front ++ p :: back)
  | earlier (front mid back : List (List Char)) {p q : List Char} (h : keyOf? p = keyOf? q) :
      Change (front ++ (mid ++ q :: back)) (front ++ p :: (mid ++ q :: back))
  | blanks (front back : List (List Char)) {key value gap₁ gap₂ gap₃ gap₄ : List Char}
      (hkey : ':' ∉ key) (h₁ : AllBlank gap₁) (h₂ : AllBlank gap₂) (h₃ : AllBlank gap₃)
      (h₄ : AllBlank gap₄) :
      Change (front ++ (key ++ ':' :: value) :: back)
        (front ++ (gap₁ ++ key ++ gap₂ ++ ':' :: (gap₃ ++ value ++ gap₄)) :: back)

end Directive

/-- Two configurations agree in all that is not settled by a key. -/
structure Config.AgreesOutside {R : Type} (key : String) (c d : Config R) : Prop where
  fontSize : key ≠ "font-size" →
    c.sizeMin = d.sizeMin ∧ c.sizeMax = d.sizeMax ∧ c.precision = d.precision ∧ c.unit = d.unit
  threshold : key ≠ "threshold" → c.threshold = d.threshold
  limit : key ≠ "limit" → c.limit = d.limit
  sort : key ≠ "sort" → c.sort = d.sort ∧ c.order = d.order
  style : key ≠ "style" →
    c.style = d.style ∧ c.tagBefore = d.tagBefore ∧ c.tagAfter = d.tagAfter
      ∧ c.separator = d.separator

/-! ## Last values -/

namespace Directive

section

variable {key : String} {p q : List Char}

theorem lastValue?_append (key : String) (front back : List (List Char)) :
    lastValue? key (front ++ back) = (lastValue? key back).or (lastValue? key front) := by
  rw [lastValue?, List.filterMap_append, List.filter_append, List.getLast?_append, Option.map_or]
  rfl

theorem lastValue?_cons (key : String) (p : List Char) (back : List (List Char)) :
    lastValue? key (p :: back) = (lastValue? key back).or (lastValue? key [p]) :=
  lastValue?_append key [p] back

theorem lastValue?_singleton_eq_none_iff : lastValue? key [p] = none ↔ keyOf? p ≠ some key := by
  rw [lastValue?, keyOf?]
  cases hp : keyAndValue? p with
  | none => simp [hp]
  | some entry => by_cases hentry : entry.1 = key <;> simp [hp, hentry]

/-- Pieces with different keys do not stand in each other's way. -/
theorem lastValue?_or_comm (h : keyOf? p ≠ keyOf? q) (key : String) :
    (lastValue? key [p]).or (lastValue? key [q])
      = (lastValue? key [q]).or (lastValue? key [p]) := by
  by_cases hp : keyOf? p = some key
  · have hq : lastValue? key [q] = none :=
      lastValue?_singleton_eq_none_iff.2 fun hq => h (hp.trans hq.symm)
    rw [hq, Option.or_none, Option.none_or]
  · rw [lastValue?_singleton_eq_none_iff.2 hp, Option.or_none, Option.none_or]

theorem keyAndValue?_blanks {name value gap₁ gap₂ gap₃ gap₄ : List Char} (hname : ':' ∉ name)
    (h₁ : AllBlank gap₁) (h₂ : AllBlank gap₂) (h₃ : AllBlank gap₃) (h₄ : AllBlank gap₄) :
    keyAndValue? (gap₁ ++ name ++ gap₂ ++ ':' :: (gap₃ ++ value ++ gap₄))
      = keyAndValue? (name ++ ':' :: value) := by
  rw [← entry?_eq_keyAndValue?, ← entry?_eq_keyAndValue?, entry?_blanks hname h₁ h₂ h₃ h₄]

/-- A change that does not show keeps the last values of the keys of the language. -/
theorem Change.keeps_lastValue {texts texts' : List (List Char)} (h : Change texts texts')
    (hkey : key ∈ settingKeys) : lastValue? key texts = lastValue? key texts' := by
  cases h with
  | @swap front back p q h =>
      have hpair : lastValue? key (p :: q :: back) = lastValue? key (q :: p :: back) := by
        rw [lastValue?_cons key p (q :: back), lastValue?_cons key q back,
          lastValue?_cons key q (p :: back), lastValue?_cons key p back, Option.or_assoc,
          Option.or_assoc, lastValue?_or_comm h]
      rw [lastValue?_append, lastValue?_append key front, hpair]
  | @idle front back p h =>
      have hp : lastValue? key [p] = none :=
        lastValue?_singleton_eq_none_iff.2 fun hp => h key hp hkey
      rw [lastValue?_append, lastValue?_append key front, lastValue?_cons, hp, Option.or_none]
  | @earlier front mid back p q h =>
      -- the later piece with the key hides the earlier one, whatever its value
      have hbehind : (lastValue? key (mid ++ q :: back)).or (lastValue? key [p])
          = lastValue? key (mid ++ q :: back) := by
        by_cases hp : keyOf? p = some key
        · have hq : lastValue? key [q] ≠ none :=
            fun hq => lastValue?_singleton_eq_none_iff.1 hq (h ▸ hp)
          obtain ⟨value, hvalue⟩ := Option.ne_none_iff_exists'.1 hq
          rw [lastValue?_append, lastValue?_cons, hvalue]
          cases lastValue? key back with
          | none => rfl
          | some value => rfl
        · rw [lastValue?_singleton_eq_none_iff.2 hp, Option.or_none]
      rw [lastValue?_append, lastValue?_append key front, lastValue?_cons key p, hbehind]
  | blanks front back hname h₁ h₂ h₃ h₄ =>
      rw [lastValue?, lastValue?, List.filterMap_append, List.filterMap_append,
        List.filterMap_cons, List.filterMap_cons, keyAndValue?_blanks hname h₁ h₂ h₃ h₄]

/-- Any number of changes, forth and back, keep the last values. -/
theorem lastValue?_of_changes {texts texts' : List (List Char)}
    (h : Relation.EqvGen Change texts texts') (hkey : key ∈ settingKeys) :
    lastValue? key texts = lastValue? key texts' := by
  induction h with
  | rel texts texts' h => exact h.keeps_lastValue hkey
  | refl texts => rfl
  | symm texts texts' _ ih => exact ih.symm
  | trans texts mid texts' _ _ ih ih' => exact ih.trans ih'

theorem get?_split_eq_lastValue? (directive : String) (key : String) :
    Dictionary.get? key (split directive) = lastValue? key (pieces false directive.toList) := by
  rw [split_eq_ofList, Dictionary.get?_ofList, said_eq, lastValue?]

end

end Directive

/-! ## The parts of a configuration -/

section

variable {R : Type} [Magnitude R]

/-- Raw values that are the same for all keys but one settle the same, but for the part of that
key. -/
theorem RawSettings.agreesOutside {key : String} {entries entries' : Dictionary String String}
    {c d : Config R} (hc : (RawSettings.ofEntries entries).config = .ok c)
    (hd : (RawSettings.ofEntries entries').config = .ok d)
    (h : ∀ k ∈ settingKeys, k ≠ key → entries.get? k = entries'.get? k) :
    c.AgreesOutside key d := by
  simp only [RawSettings.config, RawSettings.ofEntries, bind_eq_ok, pure_eq_ok] at hc hd
  obtain ⟨threshold, hthreshold, limit, hlimit, rfl⟩ := hc
  obtain ⟨threshold', hthreshold', limit', hlimit', rfl⟩ := hd
  constructor
  · intro hkey
    simp only [h "font-size" (by decide) hkey.symm, and_self]
  · intro hkey
    rw [h "threshold" (by decide) hkey.symm, hthreshold'] at hthreshold
    exact (Except.ok.inj hthreshold).symm
  · intro hkey
    rw [h "limit" (by decide) hkey.symm, hlimit'] at hlimit
    exact (Except.ok.inj hlimit).symm
  · intro hkey
    simp only [h "sort" (by decide) hkey.symm, and_self]
  · intro hkey
    simp only [h "style" (by decide) hkey.symm, and_self]

theorem RawSettings.ofEntries_congr {entries entries' : Dictionary String String}
    (h : ∀ key ∈ settingKeys, entries.get? key = entries'.get? key) :
    RawSettings.ofEntries entries = RawSettings.ofEntries entries' := by
  simp only [RawSettings.ofEntries, h "font-size" (by decide), h "threshold" (by decide),
    h "limit" (by decide), h "sort" (by decide), h "style" (by decide)]

theorem Directive.parse_congr {d₁ d₂ : String}
    (h : ∀ key ∈ settingKeys,
      lastValue? key (pieces false d₁.toList) = lastValue? key (pieces false d₂.toList)) :
    Directive.parse (R := R) d₁ = Directive.parse d₂ := by
  have hraw : RawSettings.ofEntries (split d₁) = RawSettings.ofEntries (split d₂) := by
    refine RawSettings.ofEntries_congr fun key hkey => ?_
    rw [get?_split_eq_lastValue?, get?_split_eq_lastValue?, h key hkey]
  rw [Directive.parse, Directive.parse, hraw]

/-- The settings of a directive are independent of each other. The last values of the keys settle
everything, each value settles nothing outside the part of its key, and nothing shows of the order
of different keys, of what is said of other keys or before the last value, and of blanks. -/
theorem Directive.parse_apart (d₁ d₂ : String) :
    ((∀ key ∈ settingKeys,
        lastValue? key (pieces false d₁.toList) = lastValue? key (pieces false d₂.toList)) →
      Directive.parse (R := R) d₁ = Directive.parse d₂)
    ∧ (∀ (key : String) (c₁ c₂ : Config R),
        Directive.parse d₁ = .ok c₁ → Directive.parse d₂ = .ok c₂ →
        (∀ k ∈ settingKeys, k ≠ key →
          lastValue? k (pieces false d₁.toList) = lastValue? k (pieces false d₂.toList)) →
        c₁.AgreesOutside key c₂)
    ∧ (Relation.EqvGen Change (pieces false d₁.toList) (pieces false d₂.toList) →
      Directive.parse (R := R) d₁ = Directive.parse d₂) := by
  refine ⟨Directive.parse_congr, fun key c₁ c₂ h₁ h₂ h => ?_, fun h => ?_⟩
  · refine RawSettings.agreesOutside h₁ h₂ fun k hk hne => ?_
    rw [get?_split_eq_lastValue?, get?_split_eq_lastValue?, h k hk hne]
  · exact Directive.parse_congr fun key hkey => lastValue?_of_changes h hkey

end

/-- Fragments in another order, an empty one, one for a key before another one with that key, and
blanks; and beside it a limit that cannot be used. -/
theorem Directive.parse_apart_reordered :
    (∀ key ∈ settingKeys, lastValue? key (pieces false "sort:freq,limit:3".toList)
        = lastValue? key (pieces false "limit:3,,sort:best, sort : freq".toList))
      ∧ Relation.EqvGen Change (pieces false "sort:freq,limit:3".toList)
        (pieces false "limit:3,,sort:best, sort : freq".toList)
      ∧ Directive.parse (R := Float) "sort:freq,limit:3"
        = Directive.parse "limit:3,,sort:best, sort : freq"
      ∧ (∀ k ∈ settingKeys, k ≠ "limit" →
        lastValue? k (pieces false "sort:freq,limit:3".toList)
          = lastValue? k (pieces false "sort:freq,limit:many".toList))
      ∧ ∃ c c' : Config Float, Directive.parse "sort:freq,limit:3" = .ok c
        ∧ Directive.parse "sort:freq,limit:many" = .ok c'
        ∧ c.limit = 3 ∧ c'.limit = 0 ∧ c.AgreesOutside "limit" c' := by
  have hchanges : Relation.EqvGen Change (pieces false "sort:freq,limit:3".toList)
      (pieces false "limit:3,,sort:best, sort : freq".toList) := by
    have hswap : Change ["sort:freq".toList, "limit:3".toList]
        ["limit:3".toList, "sort:freq".toList] := .swap [] [] (by decide)
    have hidle : Change ["limit:3".toList, "sort:freq".toList]
        ["limit:3".toList, [], "sort:freq".toList] := .idle ["limit:3".toList] _ (by decide)
    have hearlier : Change ["limit:3".toList, [], "sort:freq".toList]
        ["limit:3".toList, [], "sort:best".toList, "sort:freq".toList] :=
      .earlier ["limit:3".toList, []] [] [] (by decide)
    have hblanks : Change ["limit:3".toList, [], "sort:best".toList, "sort:freq".toList]
        ["limit:3".toList, [], "sort:best".toList, " sort : freq".toList] :=
      @Change.blanks ["limit:3".toList, [], "sort:best".toList] [] "sort".toList "freq".toList
        [' '] [' '] [' '] [] (by decide) (by decide) (by decide) (by decide) (by decide)
    exact .trans _ _ _ (.rel _ _ hswap) (.trans _ _ _ (.rel _ _ hidle)
      (.trans _ _ _ (.rel _ _ hearlier) (.rel _ _ hblanks)))
  have hvalues : ∀ key ∈ settingKeys, lastValue? key (pieces false "sort:freq,limit:3".toList)
      = lastValue? key (pieces false "limit:3,,sort:best, sort : freq".toList) := by decide
  have hothers : ∀ k ∈ settingKeys, k ≠ "limit" →
      lastValue? k (pieces false "sort:freq,limit:3".toList)
        = lastValue? k (pieces false "sort:freq,limit:many".toList) := by decide
  obtain ⟨c, hc, hlimit⟩ : ∃ c : Config Float,
      Directive.parse "sort:freq,limit:3" = .ok c ∧ c.limit = 3 := by
    rw [Directive.parse, split_eq_ofList]
    exact ⟨_, rfl, rfl⟩
  obtain ⟨c', hc', hlimit'⟩ : ∃ c' : Config Float,
      Directive.parse "sort:freq,limit:many" = .ok c' ∧ c'.limit = 0 := by
    rw [Directive.parse, split_eq_ofList]
    exact ⟨_, rfl, rfl⟩
  refine ⟨hvalues, hchanges, (Directive.parse_apart _ _).2.2 hchanges, hothers, c, c', hc, hc',
    hlimit, hlimit', ?_⟩
  exact (Directive.parse_apart _ _).2.1 "limit" c c' hc hc' hothers

end TagCloud
