import Mathlib.Data.List.SplitBy
import TagCloud.Proofs.Directive.Refused

/-!
# Font sizes of whole numerals

The reader of a font size looks at one character after the other and asks at each of them whether a
font size stands there. What it finds can be said without the reader. A value falls into runs: the
longest rows of digits and points, and what stands between them. A font size takes up three runs, a
numeral, a dash with blanks around it and another numeral, with a unit at the front of what follows.
Neither numeral is a mere part of its run. It begins where the run begins, for no numeral is read
behind a digit or a point, and it ends where the run ends, for what has to follow it, a blank, a
dash or a unit, is neither of them.

So the search over the characters is one over the runs, and the main statement is that it finds the
leftmost font size among them and nothing if there is none. Numbers may be shared by what looks like
two font sizes, as the `2` in `1 - 2 - 3em`: then it is the unit that tells which of them is one.
-/

namespace TagCloud

open TagCloud.Text

/-- The runs of a text: its longest rows of digits and points, and what stands between them. -/
def runs (cs : List Char) : List (List Char) :=
  cs.splitBy fun c d => inNumeral c == inNumeral d

/-- A run that is a numeral as a whole. -/
inductive NumeralRun : List Char → Prop
  | whole {digits : List Char} (hne : digits ≠ []) (hdigits : IsDigits digits) : NumeralRun digits
  | both {front back : List Char} (hne : front ≠ []) (hfront : IsDigits front) (hne' : back ≠ [])
      (hback : IsDigits back) : NumeralRun (front ++ '.' :: back)
  | fraction {digits : List Char} (hne : digits ≠ []) (hdigits : IsDigits digits) :
      NumeralRun ('.' :: digits)

/-- What stands behind the first point of a run. -/
def behindPoint (run : List Char) : List Char :=
  (run.dropWhile (· != '.')).drop 1

/-- The magnitude that a run denotes: the number of its digits when the point is left out, over the
power of ten that puts the point back in its place. -/
def runMagnitude {R : Type} [Magnitude R] (run : List Char) : R :=
  Magnitude.ofFraction (number (run.filter isDigit)) (Nat.pow 10 (behindPoint run).length)

/-- Runs that begin with a font size: two numerals, one dash between them with nothing but blanks
around it, and behind the second numeral a unit, maybe after blanks. -/
inductive SizeRuns (a b : List Char) (unit : SizeUnit) : List (List Char) → Prop
  | mk {gap₁ gap₂ gap₃ more : List Char} {back : List (List Char)}
      (ha : NumeralRun a) (hb : NumeralRun b) (hunit : unit = .percent ∨ unit = .em ∨ unit = .px)
      (h₁ : AllBlank gap₁) (h₂ : AllBlank gap₂) (h₃ : AllBlank gap₃)
      (hback : back.flatten = gap₃ ++ (unit.name.toList ++ more)) :
      SizeRuns a b unit (a :: (gap₁ ++ '-' :: gap₂) :: b :: back)

/-! ## The runs of a text -/

theorem flatten_runs (cs : List Char) : (runs cs).flatten = cs :=
  List.flatten_splitBy _ cs

theorem runs_append {kind : Bool} {run rest : List Char} (hne : run ≠ [])
    (hrun : ∀ c ∈ run, inNumeral c = kind) (hrest : ∀ c ∈ rest.head?, inNumeral c = !kind) :
    runs (run ++ rest) = run :: runs rest := by
  have hends : ∀ c ∈ run.getLast?, ∀ d ∈ rest.head?, (inNumeral c == inNumeral d) = false := by
    intro c hc d hd
    rw [hrun c (List.mem_of_mem_getLast? hc), hrest d hd]
    cases kind <;> rfl
  have hchain : run.IsChain fun c d => inNumeral c == inNumeral d := by
    refine (List.pairwise_of_forall_mem_list fun c hc d hd => ?_).isChain
    rw [hrun c hc, hrun d hd, beq_self_eq_true]
  rw [runs, List.splitBy_append hends, List.splitBy_of_isChain hne hchain]
  rfl

/-- What holds of the empty text, and of a text when it holds of the text behind its first run,
holds of every text. -/
@[elab_as_elim]
theorem runs_induction {motive : List Char → Prop} (nil : motive [])
    (append : ∀ (kind : Bool) (run rest : List Char), run ≠ [] → (∀ c ∈ run, inNumeral c = kind) →
      (∀ c ∈ rest.head?, inNumeral c = !kind) → motive rest → motive (run ++ rest))
    (cs : List Char) : motive cs := by
  induction hlength : cs.length using Nat.strongRecOn generalizing cs with
  | ind n ih =>
      cases cs with
      | nil => exact nil
      | cons c cs =>
          have hcut := List.takeWhile_append_dropWhile
            (p := fun d => inNumeral d == inNumeral c) (l := c :: cs)
          rw [← hcut]
          refine append (inNumeral c) _ _ ?_ (fun d hd => ?_) (fun d hd => ?_) ?_
          · simp
          · simpa using List.mem_takeWhile_imp hd
          · have hstop := List.head?_dropWhile_not (fun d => inNumeral d == inNumeral c) (c :: cs)
            rw [Option.mem_def.1 hd] at hstop
            exact Bool.eq_not.2 (beq_eq_false_iff_ne.1 hstop)
          · refine ih _ ?_ _ rfl
            rw [← hlength, List.dropWhile_cons_of_pos (by simp), List.length_cons]
            exact Nat.lt_succ_of_le (List.dropWhile_sublist _).length_le

/-! ## Numerals and runs -/

theorem numeralRun_iff {run : List Char} :
    NumeralRun run ↔ ∃ n : Numeral, n.Proper ∧ n.text = run := by
  constructor
  · rintro (⟨hne, hdigits⟩ | ⟨hne, hfront, hne', hback⟩ | ⟨hne, hdigits⟩)
    · exact ⟨⟨run, []⟩, ⟨hdigits, by simp [IsDigits], Or.inl hne⟩, if_pos rfl⟩
    · exact ⟨⟨_, _⟩, ⟨hfront, hback, Or.inl hne⟩, if_neg hne'⟩
    · exact ⟨⟨[], _⟩, ⟨by simp [IsDigits], hdigits, Or.inr hne⟩, if_neg hne⟩
  · rintro ⟨⟨whole, fraction⟩, ⟨hwhole, hfraction, hsome⟩, rfl⟩
    rw [Numeral.text]
    split
    · next hnil => exact .whole (hsome.resolve_right fun hne => hne hnil) hwhole
    · next hne =>
        rcases eq_or_ne whole [] with rfl | hne'
        · exact .fraction hne hfraction
        · exact .both hne' hwhole hne hfraction

namespace Numeral

variable {n : Numeral}

theorem behindPoint_text (hn : n.Proper) : behindPoint n.text = n.fraction := by
  have hwhole : ∀ c ∈ n.whole, (c != '.') = true := by
    intro c hc
    rw [bne_iff_ne]
    rintro rfl
    exact absurd (hn.whole '.' hc) (by decide)
  rw [behindPoint, text]
  split
  · next hnil => rw [hnil, List.dropWhile_eq_nil_iff.2 hwhole, List.drop_nil]
  · rw [List.dropWhile_append_of_pos hwhole, List.dropWhile_cons_of_neg (by decide),
      List.drop_succ_cons, List.drop_zero]

theorem filter_text (hn : n.Proper) : n.text.filter isDigit = n.whole ++ n.fraction := by
  rw [text]
  split
  · next hnil => rw [hnil, List.append_nil, List.filter_eq_self.2 hn.whole]
  · rw [List.filter_append, List.filter_cons_of_neg (by decide), List.filter_eq_self.2 hn.whole,
      List.filter_eq_self.2 hn.fraction]

theorem magnitude_eq {R : Type} [Magnitude R] (hn : n.Proper) :
    n.magnitude = (runMagnitude n.text : R) := by
  rw [magnitude, mantissa, places, runMagnitude, filter_text hn, behindPoint_text hn]

theorem places_eq (hn : n.Proper) : n.places = (behindPoint n.text).length := by
  rw [places, behindPoint_text hn]

end Numeral

namespace FontSize

/-! ## A font size at the front of a text -/

/-- Runs that begin with a font size are read as one. -/
theorem exists_of_sizeRuns {a b : List Char} {unit : SizeUnit} {texts : List (List Char)}
    (h : SizeRuns a b unit texts) : ∃ size, read? texts.flatten = some size := by
  cases h with
  | @mk gap₁ gap₂ gap₃ more back ha hb hunit h₁ h₂ h₃ hback =>
      obtain ⟨least, hleast, rfl⟩ := numeralRun_iff.1 ha
      obtain ⟨greatest, hgreatest, rfl⟩ := numeralRun_iff.1 hb
      refine ⟨⟨least, greatest, unit⟩, ?_⟩
      rw [← read?_written hleast hgreatest hunit h₁ h₂ h₃ more]
      simp [hback]

theorem runs_written {a b : Numeral} {gap rest : List Char} (ha : a.Proper) (hb : b.Proper)
    (hne : gap ≠ []) (hgap : ∀ c ∈ gap, inNumeral c = false) (hrest : Stops inNumeral rest) :
    runs (a.text ++ (gap ++ (b.text ++ rest))) = a.text :: gap :: b.text :: runs rest := by
  have hbehind : ∀ c ∈ (gap ++ (b.text ++ rest)).head?, inNumeral c = false := by
    intro c hc
    rw [List.head?_append_of_ne_nil _ hne] at hc
    exact hgap c (List.mem_of_mem_head? hc)
  rw [runs_append (Numeral.text_ne_nil ha) (fun _ => Numeral.inNumeral_of_mem_text ha) hbehind,
    runs_append hne hgap (Numeral.inNumeral_head_text hb),
    runs_append (Numeral.text_ne_nil hb) (fun _ => Numeral.inNumeral_of_mem_text hb) hrest]

/-- The numerals of a font size that is read are runs as they stand. -/
theorem sizeRuns_of_read? {cs : List Char} {size : FontSize} (h : read? cs = some size) :
    size.least.Proper ∧ size.greatest.Proper
      ∧ SizeRuns size.least.text size.greatest.text size.unit (runs cs) := by
  obtain ⟨text, back, hvalue, rfl⟩ := eq_of_read? h
  cases hvalue with
  | @fontSize a b unit gap₁ gap₂ gap₃ ha hb hunit h₁ h₂ h₃ =>
      have hgap : ∀ c ∈ gap₁ ++ '-' :: gap₂, inNumeral c = false := by
        intro c hc
        simp only [List.mem_append, List.mem_cons] at hc
        rcases hc with hc | rfl | hc
        · exact inNumeral_of_isBlank (h₁ c hc)
        · decide
        · exact inNumeral_of_isBlank (h₂ c hc)
      have hrest : Stops inNumeral (gap₃ ++ (unit.name.toList ++ back)) :=
        stops_of_blanks (fun _ => inNumeral_of_isBlank) h₃ (SizeUnit.stops_name hunit back)
      have hruns := runs_written ha hb (by simp) hgap hrest
      have htext : a.text ++ (gap₁ ++ '-' :: (gap₂ ++ (b.text ++ (gap₃ ++ unit.name.toList))))
            ++ back
          = a.text ++ (gap₁ ++ '-' :: gap₂
            ++ (b.text ++ (gap₃ ++ (unit.name.toList ++ back)))) := by
        simp
      rw [htext, hruns]
      refine ⟨ha, hb, .mk ?_ ?_ hunit h₁ h₂ h₃ (flatten_runs _)⟩
      · exact numeralRun_iff.2 ⟨a, ha, rfl⟩
      · exact numeralRun_iff.2 ⟨b, hb, rfl⟩

/-! ## The search over the runs -/

theorem find?_cons (inNumber : Bool) (c : Char) (cs : List Char) :
    find? inNumber (c :: cs)
      = (if inNumber then none else read? (c :: cs)).or (find? (inNumeral c) cs) := by
  rw [find?, ← inNumeral]
  cases if inNumber then none else read? (c :: cs) with
  | none => rfl
  | some size => rfl

theorem read?_eq_none {cs : List Char} (h : Stops inNumeral cs) : read? cs = none := by
  rw [Option.eq_none_iff_forall_ne_some]
  intro size hread
  obtain ⟨text, back, hvalue, rfl⟩ := eq_of_read? hread
  cases hvalue with
  | fontSize ha =>
      obtain ⟨c, cs, htext⟩ := List.exists_cons_of_ne_nil (Numeral.text_ne_nil ha)
      have hin := Numeral.inNumeral_of_mem_text ha (htext ▸ List.mem_cons_self)
      rw [h c (by simp [htext])] at hin
      exact absurd hin (by simp)

theorem find?_of_stops {cs : List Char} (inNumber : Bool) (h : Stops inNumeral cs) :
    find? inNumber cs = find? false cs := by
  cases cs with
  | nil => rfl
  | cons c cs =>
      rw [find?_cons, find?_cons, read?_eq_none h, ite_self]
      rfl

theorem find?_inside {run rest : List Char} (hrun : ∀ c ∈ run, inNumeral c = true)
    (hrest : Stops inNumeral rest) : find? true (run ++ rest) = find? false rest := by
  induction run with
  | nil => exact find?_of_stops true hrest
  | cons c run ih =>
      rw [List.cons_append, find?_cons, hrun c List.mem_cons_self, if_pos rfl, Option.none_or]
      exact ih fun d hd => hrun d (List.mem_cons_of_mem c hd)

theorem find?_outside {run rest : List Char} (hrun : ∀ c ∈ run, inNumeral c = false) :
    find? false (run ++ rest) = find? false rest := by
  induction run with
  | nil => rfl
  | cons c run ih =>
      have hc : inNumeral c = false := hrun c List.mem_cons_self
      rw [List.cons_append, find?_cons, hc, read?_eq_none (stops_cons hc), ite_self, Option.none_or]
      exact ih fun d hd => hrun d (List.mem_cons_of_mem c hd)

/-- In a run the search looks for a font size at the first character only. -/
theorem find?_append {kind : Bool} {run rest : List Char} (hne : run ≠ [])
    (hrun : ∀ c ∈ run, inNumeral c = kind) (hrest : ∀ c ∈ rest.head?, inNumeral c = !kind) :
    find? false (run ++ rest) = (read? (run ++ rest)).or (find? false rest) := by
  obtain ⟨c, run, rfl⟩ := List.exists_cons_of_ne_nil hne
  have hc : inNumeral c = kind := hrun c List.mem_cons_self
  cases kind with
  -- no numeral begins at a character that is neither a digit nor a point
  | false =>
      rw [find?_outside hrun, List.cons_append, read?_eq_none (stops_cons hc), Option.none_or]
  -- and none behind one that is
  | true =>
      have hbehind : find? true (run ++ rest) = find? false rest :=
        find?_inside (fun d hd => hrun d (List.mem_cons_of_mem c hd)) hrest
      rw [List.cons_append, find?_cons, hc, hbehind, if_neg (by simp)]

/-- What is found stands in the runs, and no font size stands before it. -/
theorem sizeRuns_of_find? {cs : List Char} {size : FontSize} (h : find? false cs = some size) :
    size.least.Proper ∧ size.greatest.Proper ∧ ∃ texts, texts <:+ runs cs
      ∧ SizeRuns size.least.text size.greatest.text size.unit texts
      ∧ ∀ texts' a b unit, texts' <:+ runs cs → SizeRuns a b unit texts' → texts' <:+ texts := by
  induction cs using runs_induction with
  | nil => exact absurd h (by simp [find?])
  | append kind run rest hne hrun hrest ih =>
      rw [find?_append hne hrun hrest] at h
      cases hread : read? (run ++ rest) with
      | some found =>
          rw [hread, Option.some_or, Option.some.injEq] at h
          subst h
          obtain ⟨hleast, hgreatest, hruns⟩ := sizeRuns_of_read? hread
          exact ⟨hleast, hgreatest, _, List.suffix_rfl, hruns, fun _ _ _ _ hsuffix _ => hsuffix⟩
      | none =>
          rw [hread, Option.none_or] at h
          obtain ⟨hleast, hgreatest, texts, hsuffix, hruns, hfirst⟩ := ih h
          rw [runs_append hne hrun hrest]
          refine ⟨hleast, hgreatest, texts, List.suffix_cons_iff.2 (Or.inr hsuffix), hruns, ?_⟩
          intro texts' a b unit hsuffix' hruns'
          -- nothing is read at the first run, so the other size stands in the rest as well
          rcases List.suffix_cons_iff.1 hsuffix' with rfl | hsuffix'
          · obtain ⟨found, hfound⟩ := exists_of_sizeRuns hruns'
            rw [← runs_append hne hrun hrest, flatten_runs, hread] at hfound
            exact absurd hfound (by simp)
          · exact hfirst _ _ _ _ hsuffix' hruns'

theorem isSome_find? {cs a b : List Char} {unit : SizeUnit} {texts : List (List Char)}
    (hsuffix : texts <:+ runs cs) (h : SizeRuns a b unit texts) : (find? false cs).isSome := by
  induction cs using runs_induction with
  | nil =>
      rw [List.suffix_nil.1 hsuffix] at h
      cases h
  | append kind run rest hne hrun hrest ih =>
      rw [runs_append hne hrun hrest] at hsuffix
      rw [find?_append hne hrun hrest, Option.isSome_or]
      rcases List.suffix_cons_iff.1 hsuffix with rfl | hsuffix
      · obtain ⟨size, hsize⟩ := exists_of_sizeRuns h
        rw [← runs_append hne hrun hrest, flatten_runs] at hsize
        rw [hsize, Option.isSome_some, Bool.true_or]
      · rw [ih hsuffix, Bool.or_true]

/-- A value gives a font size exactly when two whole numerals follow each other in its runs with
nothing but a dash and blanks between them and a unit behind. The bounds, the unit and the number of
decimal places are those of the leftmost such pair. -/
theorem parse_runs {R : Type} [Magnitude R] (value : String) :
    ((parse value).isSome
        ↔ ∃ texts a b unit, texts <:+ runs value.toList ∧ SizeRuns a b unit texts)
      ∧ ∀ size, parse value = some size → ∃ texts a b, texts <:+ runs value.toList
        ∧ SizeRuns a b size.unit texts
        ∧ (∀ texts' a' b' unit, texts' <:+ runs value.toList → SizeRuns a' b' unit texts' →
            texts' <:+ texts)
        ∧ size.least.magnitude = (runMagnitude a : R)
        ∧ size.greatest.magnitude = (runMagnitude b : R)
        ∧ size.precision = max (behindPoint a).length (behindPoint b).length := by
  refine ⟨⟨fun h => ?_, fun ⟨_, _, _, _, hsuffix, h⟩ => isSome_find? hsuffix h⟩, fun size h => ?_⟩
  · obtain ⟨size, hsize⟩ := Option.isSome_iff_exists.1 h
    obtain ⟨-, -, texts, hsuffix, hruns, -⟩ := sizeRuns_of_find? hsize
    exact ⟨texts, _, _, _, hsuffix, hruns⟩
  · obtain ⟨hleast, hgreatest, texts, hsuffix, hruns, hfirst⟩ := sizeRuns_of_find? h
    refine ⟨texts, _, _, hsuffix, hruns, hfirst, Numeral.magnitude_eq hleast,
      Numeral.magnitude_eq hgreatest, ?_⟩
    rw [precision, Numeral.places_eq hleast, Numeral.places_eq hgreatest]

/-- A run with two points is no numeral, and of two pairs that share a numeral the one with a unit
behind it is the font size. -/
theorem parse_runs_shared :
    parse "v1.2.3-4px 1 - 2 - .25 em" = some ⟨⟨['2'], []⟩, ⟨[], ['2', '5']⟩, .em⟩
      ∧ ∃ texts a b, texts <:+ runs "v1.2.3-4px 1 - 2 - .25 em".toList ∧ SizeRuns a b .em texts
        ∧ (∀ texts' a' b' unit, texts' <:+ runs "v1.2.3-4px 1 - 2 - .25 em".toList →
            SizeRuns a' b' unit texts' → texts' <:+ texts)
        ∧ Numeral.magnitude ⟨['2'], []⟩ = (runMagnitude a : Float)
        ∧ Numeral.magnitude ⟨[], ['2', '5']⟩ = (runMagnitude b : Float)
        ∧ 2 = max (behindPoint a).length (behindPoint b).length := by
  have hread : parse "v1.2.3-4px 1 - 2 - .25 em"
      = some ⟨⟨['2'], []⟩, ⟨[], ['2', '5']⟩, .em⟩ := by
    decide
  exact ⟨hread, (parse_runs (R := Float) _).2 _ hread⟩

end FontSize

end TagCloud
