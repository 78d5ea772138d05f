import TagCloud.Directive.Parse
import TagCloud.Proofs.Directive.Fragments
import TagCloud.Proofs.Text.Span

/-!
# Reading the values of a directive

Each of the five keys has a grammar of its own for its value. This module writes values by these
grammars, with blanks wherever blanks are allowed, and shows that each of them is read as what it
was written from. Every reader takes something off the front and stops where it can go no further,
so it has to be known of every part that the next one does not go on with it: a blank is no digit
and no letter, and neither is a dash, a brace or the end of the value.
-/

namespace TagCloud

open TagCloud.Text

namespace Text

/-! ## Blanks end words and numerals -/

/-- The code points of the blanks. -/
def blanks : List Nat :=
  [9, 10, 11, 12, 13, 28, 29, 30, 31, 32, 0x85, 0xA0, 0x1680, 0x2000, 0x2001, 0x2002, 0x2003,
    0x2004, 0x2005, 0x2006, 0x2007, 0x2008, 0x2009, 0x200A, 0x2028, 0x2029, 0x202F, 0x205F, 0x3000]

theorem toNat_mem_blanks {c : Char} (h : isBlank c = true) : c.toNat ∈ blanks := by
  unfold isBlank at h
  simp only [blanks, List.mem_cons, List.not_mem_nil, or_false]
  simp only [Bool.ite_eq_true_distrib, Bool.or_eq_true, Bool.and_eq_true, decide_eq_true_eq,
    beq_iff_eq] at h
  split at h
  · omega
  · omega

theorem blanks_end : ∀ n ∈ blanks,
    isDigit (Char.ofNat n) = false ∧ isWord (Char.ofNat n) = false := by
  decide +kernel

theorem isDigit_of_isBlank {c : Char} (h : isBlank c = true) : isDigit c = false := by
  have hend := (blanks_end c.toNat (toNat_mem_blanks h)).1
  rwa [Char.ofNat_toNat] at hend

theorem isWord_of_isBlank {c : Char} (h : isBlank c = true) : isWord c = false := by
  have hend := (blanks_end c.toNat (toNat_mem_blanks h)).2
  rwa [Char.ofNat_toNat] at hend

theorem isBlank_of_isDigit {c : Char} (h : isDigit c = true) : isBlank c = false := by
  cases hblank : isBlank c with
  | false => rfl
  | true => rw [isDigit_of_isBlank hblank] at h; exact absurd h (by simp)

theorem ne_of_isBlank {c d : Char} (hc : isBlank c = true) (hd : isBlank d = false) : c ≠ d := by
  rintro rfl
  rw [hc] at hd
  exact absurd hd (by simp)

/-- Behind blanks comes what follows them. -/
theorem stops_of_blanks {p : Char → Bool} (hp : ∀ c, isBlank c = true → p c = false)
    {gap rest : List Char} (hgap : AllBlank gap) (hrest : Stops p rest) :
    Stops p (gap ++ rest) := by
  cases gap with
  | nil => exact hrest
  | cons c gap => exact stops_cons (hp c (hgap c List.mem_cons_self))

end Text

/-! ## Numerals and sizes -/

/-- A row of digits. -/
def IsDigits (cs : List Char) : Prop :=
  ∀ c ∈ cs, isDigit c = true

instance (cs : List Char) : Decidable (IsDigits cs) :=
  inferInstanceAs (Decidable (∀ c ∈ cs, isDigit c = true))

/-- A numeral that can be written: its rows hold digits, and one of them has some. -/
structure Numeral.Proper (n : Numeral) : Prop where
  whole : IsDigits n.whole
  fraction : IsDigits n.fraction
  some_digit : n.whole ≠ [] ∨ n.fraction ≠ []

/-- A numeral as it is written. A point stands only before digits. -/
def Numeral.text (n : Numeral) : List Char :=
  if n.fraction = [] then n.whole else n.whole ++ '.' :: n.fraction

/-- A character that a numeral could go on with. -/
def inNumeral (c : Char) : Bool :=
  isDigit c || c == '.'

theorem stops_of_inNumeral {p : Char → Bool} (hp : ∀ c, inNumeral c = false → p c = false)
    {rest : List Char} (h : Stops inNumeral rest) : Stops p rest :=
  fun c hc => hp c (h c hc)

theorem isDigit_of_not_inNumeral {c : Char} (h : inNumeral c = false) : isDigit c = false :=
  (Bool.or_eq_false_iff.1 h).1

theorem inNumeral_of_isBlank {c : Char} (h : isBlank c = true) : inNumeral c = false := by
  rw [inNumeral, isDigit_of_isBlank h, Bool.false_or, beq_eq_false_iff_ne]
  exact ne_of_isBlank h (by decide)

theorem isBlank_of_inNumeral {c : Char} (h : inNumeral c = true) : isBlank c = false := by
  cases hblank : isBlank c with
  | false => rfl
  | true => rw [inNumeral_of_isBlank hblank] at h; exact absurd h (by simp)

/-- A numeral is read as far as it was written. -/
theorem Numeral.read?_text {n : Numeral} (hn : n.Proper) {rest : List Char}
    (hrest : Stops inNumeral rest) : Numeral.read? (n.text ++ rest) = some (n, rest) := by
  have hdigits : Stops isDigit rest := stops_of_inNumeral (fun _ => isDigit_of_not_inNumeral) hrest
  obtain ⟨whole, fraction⟩ := n
  by_cases hfraction : fraction = []
  · subst hfraction
    have hwhole : whole ≠ [] := hn.some_digit.resolve_right (fun h => h rfl)
    rw [text, if_pos rfl, read?]
    simp only [takeWhile_append_stop hn.whole hdigits, dropWhile_append_stop hn.whole hdigits]
    cases rest with
    | nil => simp [hwhole]
    | cons c rest =>
        have hc : c ≠ '.' := by
          have hstop := (Bool.or_eq_false_iff.1 (hrest c rfl)).2
          exact beq_eq_false_iff_ne.1 hstop
        simp [hc, hwhole]
  · rw [text, if_neg hfraction, read?, List.append_assoc, List.cons_append]
    have hpoint : Stops isDigit ('.' :: (fraction ++ rest)) := stops_cons (by decide)
    simp only [takeWhile_append_stop hn.whole hpoint, dropWhile_append_stop hn.whole hpoint,
      takeWhile_append_stop hn.fraction hdigits, List.drop_succ_cons, List.drop_zero,
      dropWhile_append_stop hn.fraction hdigits]
    simp [hfraction]

theorem Numeral.inNumeral_of_mem_text {n : Numeral} (hn : n.Proper) {c : Char} (h : c ∈ n.text) :
    inNumeral c = true := by
  have hdigit : ∀ {cs : List Char}, IsDigits cs → ∀ {c}, c ∈ cs → inNumeral c = true := by
    intro cs hcs c hc
    rw [inNumeral, hcs c hc, Bool.true_or]
  rw [text] at h
  split at h
  · exact hdigit hn.whole h
  · rcases List.mem_append.1 h with h | h
    · exact hdigit hn.whole h
    · rcases List.mem_cons.1 h with rfl | h
      · decide
      · exact hdigit hn.fraction h

theorem Numeral.text_ne_nil {n : Numeral} (hn : n.Proper) : n.text ≠ [] := by
  rw [text]
  split
  · next h => exact hn.some_digit.resolve_right fun hne => hne h
  · simp

theorem Numeral.inNumeral_head_text {n : Numeral} (hn : n.Proper) {rest : List Char} :
    ∀ c ∈ (n.text ++ rest).head?, inNumeral c = true := by
  intro c hc
  rw [List.head?_append_of_ne_nil _ (Numeral.text_ne_nil hn)] at hc
  exact Numeral.inNumeral_of_mem_text hn (List.mem_of_mem_head? hc)

section

variable {a b : Numeral} {unit : SizeUnit} {gap₁ gap₂ gap₃ : List Char}

/-- No unit goes on with a numeral. -/
theorem SizeUnit.stops_name (hunit : unit = .percent ∨ unit = .em ∨ unit = .px)
    (back : List Char) : Stops inNumeral (unit.name.toList ++ back) := by
  rcases hunit with rfl | rfl | rfl
  · exact stops_cons (by decide)
  · exact stops_cons (by decide)
  · exact stops_cons (by decide)

/-- A font size with blanks around its dash and before its unit is read, whatever comes behind the
unit. -/
theorem FontSize.read?_written (ha : a.Proper) (hb : b.Proper)
    (hunit : unit = .percent ∨ unit = .em ∨ unit = .px) (h₁ : AllBlank gap₁) (h₂ : AllBlank gap₂)
    (h₃ : AllBlank gap₃) (back : List Char) :
    FontSize.read?
        (a.text ++ (gap₁ ++ '-' :: (gap₂ ++ (b.text ++ (gap₃ ++ (unit.name.toList ++ back))))))
      = some ⟨a, b, unit⟩ := by
  have hstops := SizeUnit.stops_name hunit back
  have hname : trimLeft (unit.name.toList ++ back) = unit.name.toList ++ back
      ∧ SizeUnit.read? (unit.name.toList ++ back) = some unit := by
    rcases hunit with rfl | rfl | rfl
    · exact ⟨rfl, rfl⟩
    · exact ⟨rfl, rfl⟩
    · exact ⟨rfl, rfl⟩
  generalize unit.name.toList ++ back = ending at hstops hname ⊢
  obtain ⟨htrim, hread⟩ := hname
  have hfront : trimLeft (gap₂ ++ (b.text ++ (gap₃ ++ ending))) = b.text ++ (gap₃ ++ ending) := by
    rw [trimLeft_append_left h₂]
    exact trimLeft_of_head fun c hc => isBlank_of_inNumeral (Numeral.inNumeral_head_text hb c hc)
  have hdash : Stops inNumeral ('-' :: (gap₂ ++ (b.text ++ (gap₃ ++ ending)))) :=
    stops_cons (by decide)
  have hstop := stops_of_blanks (fun _ => inNumeral_of_isBlank) h₁ hdash
  have hstop' := stops_of_blanks (fun _ => inNumeral_of_isBlank) h₃ hstops
  rw [FontSize.read?, Numeral.read?_text ha hstop]
  simp only [Option.bind_eq_bind, Option.bind_some, trimLeft_append_left h₁]
  rw [trimLeft_of_head (by simp; decide)]
  simp only [hfront, Numeral.read?_text hb hstop', Option.bind_some, trimLeft_append_left h₃,
    htrim, hread, Option.pure_def]

theorem FontSize.parse_written (ha : a.Proper) (hb : b.Proper)
    (hunit : unit = .percent ∨ unit = .em ∨ unit = .px) (h₁ : AllBlank gap₁) (h₂ : AllBlank gap₂)
    (h₃ : AllBlank gap₃) :
    FontSize.parse (String.ofList
        (a.text ++ (gap₁ ++ '-' :: (gap₂ ++ (b.text ++ (gap₃ ++ unit.name.toList))))))
      = some ⟨a, b, unit⟩ := by
  have hread := FontSize.read?_written ha hb hunit h₁ h₂ h₃ []
  rw [List.append_nil] at hread
  rw [FontSize.parse, String.toList_ofList]
  cases htext : a.text with
  | nil => exact absurd htext (Numeral.text_ne_nil ha)
  | cons c cs =>
      rw [htext, List.cons_append] at hread
      rw [List.cons_append, find?]
      simp [hread]

end

/-! ## Counts -/

theorem parseCount_written {digits : List Char} (hne : digits ≠ []) (hdigits : IsDigits digits)
    (hlength : digits.length ≤ Number.digitLimit) :
    parseCount (String.ofList digits) = .ok (some (number digits)) := by
  have htake : digits.takeWhile isDigit = digits := List.takeWhile_eq_self_iff.2 hdigits
  rw [parseCount, String.toList_ofList]
  simp only [htake, List.isEmpty_iff, hne, if_false]
  rw [Number.readDigits, if_neg (by omega)]
  rfl

theorem digit?_of_isDigit {c : Char} (h : c.isDigit = true) :
    digit? c = some (c.toNat - '0'.toNat) := by
  have hlt : c.toNat < 128 := by
    simp only [Char.isDigit, Bool.and_eq_true, decide_eq_true_eq] at h
    have hle : c.toNat ≤ 57 := h.2
    omega
  rw [digit?, if_pos hlt, if_pos h]
  rfl

theorem isDigits_toDigits (n : Nat) : IsDigits (Nat.toDigits 10 n) := by
  intro c hc
  have hdigit := Nat.isDigit_of_mem_toDigits (by decide) (by decide) hc
  rw [isDigit, digit?_of_isDigit hdigit]
  rfl

/-- The digits of a number denote it. -/
theorem number_toDigits (n : Nat) : number (Nat.toDigits 10 n) = n := by
  have hfold : ∀ (cs : List Char) (start : Nat), (∀ c ∈ cs, c.isDigit = true) →
      cs.foldl (fun n c => n * 10 + (digit? c).getD 0) start = Nat.ofDigitChars 10 cs start := by
    intro cs
    induction cs with
    | nil => intro start _; simp
    | cons c cs ih =>
        intro start hcs
        rw [List.foldl_cons, digit?_of_isDigit (hcs c List.mem_cons_self),
          ih _ fun d hd => hcs d (List.mem_cons_of_mem c hd), Nat.ofDigitChars_cons,
          Option.getD_some, Nat.mul_comm]
  rw [number, hfold _ 0 fun c hc => Nat.isDigit_of_mem_toDigits (by decide) (by decide) hc,
    Nat.ofDigitChars_ten_toDigits]

/-! ## Keywords -/

theorem keyword?_cons_self {α : Type} {word : String} {meaning : α} {words : List (String × α)}
    {rest : List Char} (hends : endsWord rest = true) :
    keyword? ((word, meaning) :: words) (word.toList ++ rest) = some (meaning, rest) := by
  simp only [keyword?, List.findSome?_cons, afterWord?, behind?_append, hends, if_true,
    Option.map_some]

theorem keyword?_cons_of_ne {α : Type} {word : String} {meaning : α} {words : List (String × α)}
    {cs : List Char} (h : behind? word.toList cs = none) :
    keyword? ((word, meaning) :: words) cs = keyword? words cs := by
  simp only [keyword?, List.findSome?_cons, afterWord?, h, Option.map_none]

theorem endsWord_nil : endsWord [] = true :=
  rfl

/-- The mode at the front of a text. -/
theorem mode_written {mode : Mode} (hmode : mode = .freq ∨ mode = .rand ∨ mode = .alpha)
    {rest : List Char} (hends : endsWord rest = true) :
    keyword? [("freq", Mode.freq), ("rand", .rand), ("alpha", .alpha)] (mode.name.toList ++ rest)
      = some (mode, rest) := by
  rcases hmode with rfl | rfl | rfl
  · exact keyword?_cons_self hends
  · refine (keyword?_cons_of_ne rfl).trans ?_
    exact keyword?_cons_self hends
  · refine (keyword?_cons_of_ne rfl).trans ((keyword?_cons_of_ne rfl).trans ?_)
    exact keyword?_cons_self hends

theorem direction_written {direction : Direction}
    (hdirection : direction = .asc ∨ direction = .desc) {rest : List Char}
    (hends : endsWord rest = true) :
    keyword? [("asc", Direction.asc), ("desc", .desc)] (direction.name.toList ++ rest)
      = some (direction, rest) := by
  rcases hdirection with rfl | rfl
  · exact keyword?_cons_self hends
  · refine (keyword?_cons_of_ne rfl).trans ?_
    exact keyword?_cons_self hends

theorem style_written {style : Style} (hstyle : style = .list ∨ style = .para) {rest : List Char}
    (hends : endsWord rest = true) :
    keyword? [("list", Style.list), ("para", .para)] (style.name.toList ++ rest)
      = some (style, rest) := by
  rcases hstyle with rfl | rfl
  · exact keyword?_cons_self hends
  · refine (keyword?_cons_of_ne rfl).trans ?_
    exact keyword?_cons_self hends

theorem Sorting.parse_mode {mode : Mode} (hmode : mode = .freq ∨ mode = .rand ∨ mode = .alpha) :
    Sorting.parse mode.name = some ⟨mode, none⟩ := by
  have hread := mode_written hmode endsWord_nil
  rw [List.append_nil] at hread
  rw [Sorting.parse, hread]
  rfl

/-- A mode with a direction behind blanks is read. -/
theorem Sorting.parse_written {mode : Mode} {direction : Direction} {gap : List Char}
    (hmode : mode = .freq ∨ mode = .rand ∨ mode = .alpha)
    (hdirection : direction = .asc ∨ direction = .desc) (hne : gap ≠ []) (hgap : AllBlank gap) :
    Sorting.parse (String.ofList (mode.name.toList ++ (gap ++ direction.name.toList)))
      = some ⟨mode, some direction⟩ := by
  have hends : endsWord (gap ++ direction.name.toList) = true := by
    cases gap with
    | nil => exact absurd rfl hne
    | cons c gap =>
        rw [List.cons_append, endsWord, isWord_of_isBlank (hgap c List.mem_cons_self)]
        rfl
  have htrim : trimLeft direction.name.toList = direction.name.toList := by
    rcases hdirection with rfl | rfl
    · exact trimLeft_of_head (by decide)
    · exact trimLeft_of_head (by decide)
  have hread := direction_written hdirection endsWord_nil
  rw [List.append_nil] at hread
  rw [Sorting.parse, String.toList_ofList, mode_written hmode hends]
  simp only [Option.bind_eq_bind, Option.bind_some, trimLeft_append_left hgap, htrim, hread,
    Option.map_some, Option.pure_def]

/-! ## Separators -/

theorem beforeLast?_append {mark : Char} (front : List Char) {back : List Char} (h : mark ∉ back) :
    beforeLast? mark (front ++ mark :: back) = some front := by
  have hback : beforeLast? mark back = none := by
    induction back with
    | nil => rfl
    | cons c back ih =>
        rw [List.mem_cons, not_or] at h
        rw [beforeLast?, ih h.2]
        simp [Ne.symm h.1]
  induction front with
  | nil => rw [List.nil_append, beforeLast?, hback]; simp
  | cons c front ih => rw [List.cons_append, beforeLast?, ih]

theorem Styling.parse_style {style : Style} (hstyle : style = .list ∨ style = .para) :
    Styling.parse style.name = some ⟨style, none⟩ := by
  have hread := style_written hstyle endsWord_nil
  rw [List.append_nil] at hread
  rw [Styling.parse, hread]
  rfl

/-- A style with a separator in braces is read. -/
theorem Styling.parse_written {style : Style} {gap : List Char} (separator : String)
    (hstyle : style = .list ∨ style = .para) (hgap : AllBlank gap) :
    Styling.parse (String.ofList
        (style.name.toList ++ (gap ++ '{' :: (separator.toList ++ ['}']))))
      = some ⟨style, some separator⟩ := by
  have hbrace : Stops isWord ('{' :: (separator.toList ++ ['}'])) := stops_cons (by decide)
  have hends := endsWord_of_stops (stops_of_blanks (fun _ => isWord_of_isBlank) hgap hbrace)
  have hlast : '}' ∉ ([] : List Char) := by simp
  rw [Styling.parse, String.toList_ofList, style_written hstyle hends]
  simp only [Option.bind_eq_bind, Option.bind_some, trimLeft_append_left hgap]
  rw [trimLeft_of_head (by simp; decide)]
  simp only [beforeLast?_append separator.toList hlast, Option.map_some, String.ofList_toList,
    Option.pure_def]

end TagCloud
