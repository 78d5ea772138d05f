import Mathlib.Data.List.Infix
import TagCloud.Proofs.Template.Delimiters

/-!
# Raw blocks in the source of a template

A raw block stands between two markers, each a word between delimiters that may have blanks and
hyphens around it. The block is found as a whole: it ends with the first closing marker, whatever
else it holds. A marker cannot begin in one part of a text and end in the next, since the brace that
opens it is the only one before its end; that is why nothing but the body decides where a block
ends.
-/

namespace TagCloud.Template

open TagCloud.Text

variable {α : Type} {next : List Char → Option α} {word cs rest : List Char} {a : α}

/-! ## Markers -/

/-- What a marker of a raw block has around its word: a hyphen inside either delimiter, if it trims
there, and blanks. -/
structure Marker where
  trimsLeft : Bool
  before : List Char
  behind : List Char
  trimsRight : Bool

/-- The blanks of a marker are blanks. -/
structure Marker.Fits (m : Marker) : Prop where
  before : AllBlank m.before
  behind : AllBlank m.behind

/-- A marker behind the brace that opens it. -/
def Marker.inside (word : List Char) (m : Marker) : List Char :=
  '%' :: (hyphen m.trimsLeft ++ (m.before ++ (word ++ (m.behind ++ (hyphen m.trimsRight
    ++ ['%', '}'])))))

/-- A marker with some word. -/
def Marker.source (word : List Char) (m : Marker) : List Char :=
  '{' :: m.inside word

/-- A character that is neither a blank nor a hyphen, so that it is not taken for what may stand
before a word. -/
def IsSolid (c : Char) : Prop :=
  isBlank c = false ∧ c ≠ '-'

theorem IsSolid.head?_ne {c : Char} (hc : IsSolid c) {pad : List Char} (hpad : AllBlank pad)
    (hcs : cs.head? = some c) : (pad ++ cs).head? ≠ some '-' := by
  cases pad with
  | nil => exact fun h => hc.2 (Option.some.inj (hcs.symm.trans h))
  | cons d pad =>
      intro h
      have hd : isBlank d = true := hpad d List.mem_cons_self
      rw [Option.some.inj h] at hd
      exact absurd hd (by decide)

/-- What may stand before a word is a matter of blanks and hyphens. -/
theorem dropWhile_decorated {c : Char} (trims : Bool) {pad cs : List Char} (hpad : AllBlank pad)
    (hc : IsSolid c) (hcs : cs.head? = some c) :
    (hyphen trims ++ (pad ++ cs)).dropWhile (fun d => isBlank d || d == '-') = cs := by
  have hfront : ∀ d ∈ hyphen trims ++ pad, (isBlank d || d == '-') = true := by
    intro d hd
    rcases List.mem_append.1 hd with hd | hd
    · cases trims with
      | true => simp [List.mem_singleton.1 hd]
      | false => exact absurd hd (by simp [hyphen])
    · simp [hpad d hd]
  rw [← List.append_assoc]
  refine dropWhile_append_stop hfront fun d hd => ?_
  obtain rfl := Option.some.inj (hcs.symm.trans hd)
  simp [hc.1, hc.2]

/-- A marker is read, whatever follows it. -/
theorem rawMarker_source {c : Char} {word : List Char} (hc : IsSolid c) {m : Marker} (hm : m.Fits)
    (next : List Char → Option α) (rest : List Char) :
    rawMarker .usual (c :: word) next (m.source (c :: word) ++ rest) = next rest := by
  have hsource : m.source (c :: word) ++ rest = ['{', '%'] ++ (hyphen m.trimsLeft ++ (m.before
      ++ ((c :: word) ++ (m.behind ++ (hyphen m.trimsRight ++ (['%', '}'] ++ rest)))))) := by
    simp [Marker.source, Marker.inside]
  have hend : Stops isBlank (hyphen m.trimsRight ++ (['%', '}'] ++ rest)) := by
    cases m.trimsRight with
    | true => exact stops_cons (by decide)
    | false => exact stops_cons (by decide)
  have hword : ∀ cs, Stops isBlank ((c :: word) ++ cs) := fun _ => stops_cons hc.1
  have hblank : ∀ d, isBlank d = true → d ≠ c ∧ d ≠ '%' ∧ d ≠ '-' := by
    intro d hd
    refine ⟨?_, ?_, ?_⟩
    · rintro rfl
      exact absurd (hd.symm.trans hc.1) (by decide)
    · rintro rfl
      exact absurd hd (by decide)
    · rintro rfl
      exact absurd hd (by decide)
  rw [rawMarker, hsource]
  simp only [Delimiters.usual]
  rw [after_append, afterHyphen_append (hc.head?_ne hm.before rfl),
    afterBlanks_append hm.before (hword _), after_append,
    afterBlanks_append hm.behind hend, afterHyphen_append (by simp), after_append]
  · exact fun ds => after_of_ne (by decide)
  · intro d ds hd
    rw [afterHyphen_of_ne (hblank d hd).2.2]
    exact after_of_ne (hblank d hd).2.1
  · exact fun d ds hd => after_of_ne (hblank d hd).1
  · intro ds
    rw [afterBlanks_of_stops (stops_cons (by decide))]
    exact after_of_ne (Ne.symm hc.2)

/-- Only markers are read. -/
theorem exists_of_rawMarker (h : rawMarker .usual word next cs = some a) :
    ∃ (m : Marker) (rest : List Char),
      m.Fits ∧ cs = m.source word ++ rest ∧ next rest = some a := by
  unfold rawMarker at h
  simp only [Delimiters.usual] at h
  obtain ⟨_, rfl, h₁⟩ := after_eq_some.1 h
  obtain ⟨trimsLeft, _, rfl, h₂⟩ := exists_of_afterHyphen h₁
  obtain ⟨before, _, hbefore, rfl, h₃⟩ := exists_of_afterBlanks h₂
  obtain ⟨_, rfl, h₄⟩ := after_eq_some.1 h₃
  obtain ⟨behind, _, hbehind, rfl, h₅⟩ := exists_of_afterBlanks h₄
  obtain ⟨trimsRight, _, rfl, h₆⟩ := exists_of_afterHyphen h₅
  obtain ⟨rest, rfl, h₇⟩ := after_eq_some.1 h₆
  exact ⟨⟨trimsLeft, before, behind, trimsRight⟩, rest, ⟨hbefore, hbehind⟩,
    by simp [Marker.source, Marker.inside], h₇⟩

/-! ## Where a block ends -/

theorem firstPlace_of_some {p : List Char → Option α} (h : p cs = some a) :
    firstPlace p cs = some a := by
  cases cs with
  | nil => exact h
  | cons c cs => simp only [firstPlace, h]

/-- Places at which there is no success are passed over. -/
theorem firstPlace_append {p : List Char → Option α} {front : List Char}
    (h : ∀ s, s <:+ front → s ≠ [] → p (s ++ rest) = none) (hrest : p rest = some a) :
    firstPlace p (front ++ rest) = some a := by
  induction front with
  | nil => exact firstPlace_of_some hrest
  | cons c front ih =>
      have hhere : p (c :: (front ++ rest)) = none := h (c :: front) List.suffix_rfl (by simp)
      rw [List.cons_append, firstPlace, hhere]
      exact ih fun s hs => h s (hs.trans (List.suffix_cons c front))

theorem exists_of_firstPlace {p : List Char → Option α} (h : firstPlace p cs = some a) :
    ∃ front rest, cs = front ++ rest ∧ p rest = some a
      ∧ ∀ s, s <:+ front → s ≠ [] → p (s ++ rest) = none := by
  induction cs with
  | nil => exact ⟨[], [], rfl, h, fun s hs hne => absurd (List.suffix_nil.1 hs) hne⟩
  | cons c cs ih =>
      rw [firstPlace] at h
      split at h
      · next found hfound =>
          refine ⟨[], c :: cs, rfl, hfound.trans h, ?_⟩
          exact fun s hs hne => absurd (List.suffix_nil.1 hs) hne
      · next hnone =>
          obtain ⟨front, rest, rfl, hrest, hfront⟩ := ih h
          refine ⟨c :: front, rest, rfl, hrest, fun s hs hne => ?_⟩
          rcases List.suffix_cons_iff.1 hs with rfl | hs
          · exact hnone
          · exact hfront s hs hne

/-! ## Blocks -/

/-- A raw block. -/
structure RawBlock where
  opening : Marker
  body : List Char
  closing : Marker

/-- A raw block as it stands in a template. -/
def RawBlock.source (b : RawBlock) : List Char :=
  b.opening.source rawWord ++ (b.body ++ b.closing.source endrawWord)

/-- The markers of a raw block are markers, and its body holds none that closes it. -/
structure RawBlock.Fits (b : RawBlock) : Prop where
  opening : b.opening.Fits
  closing : b.closing.Fits
  unclosed : ∀ m : Marker, m.Fits → ¬ m.source endrawWord <:+: b.body

/-- A text in which a word does not stand holds no marker with that word. -/
theorem not_isInfix_of_word (h : ¬ word <:+: cs) (m : Marker) : ¬ m.source word <:+: cs := by
  intro hin
  refine h (List.IsInfix.trans ⟨'{' :: '%' :: (hyphen m.trimsLeft ++ m.before),
    m.behind ++ (hyphen m.trimsRight ++ ['%', '}']), ?_⟩ hin)
  simp [Marker.source, Marker.inside]

/-- Behind the brace that opens a marker there is no other. -/
theorem brace_not_mem_inside {m : Marker} (hm : m.Fits) (hword : '{' ∉ word) :
    '{' ∉ m.inside word := by
  have hblank : ∀ pad : List Char, AllBlank pad → '{' ∉ pad :=
    fun pad hpad hmem => absurd (hpad _ hmem) (by decide)
  have hhyphen : ∀ trims, '{' ∉ hyphen trims := by decide
  simp [Marker.inside, hblank _ hm.before, hblank _ hm.behind, hhyphen, hword]

/-- A marker that begins within a text and is followed by a brace ends within it. -/
theorem isInfix_of_marker {m : Marker} (hm : m.Fits) (hword : '{' ∉ word)
    {s front behind : List Char} (hs : s ≠ [])
    (h : s ++ '{' :: behind = m.source word ++ front) : m.source word <:+: s := by
  rcases List.append_eq_append_iff.1 h with ⟨excess, hmarker, hexcess⟩ | ⟨excess, hmarker, -⟩
  · cases excess with
    | nil => exact ⟨[], [], by simpa using hmarker⟩
    | cons d excess =>
        obtain ⟨rfl, -⟩ := List.cons.inj hexcess
        cases s with
        | nil => exact absurd rfl hs
        | cons c s =>
            obtain ⟨-, hinside⟩ := List.cons.inj hmarker
            exact absurd (by rw [hinside]; simp) (brace_not_mem_inside hm hword)
  · exact ⟨[], excess, by simpa using hmarker.symm⟩

theorem isSolid_raw : IsSolid 'r' ∧ IsSolid 'e' :=
  ⟨⟨by decide, by decide⟩, by decide, by decide⟩

/-- A raw block is found as a whole. -/
theorem behindRaw?_source {b : RawBlock} (h : b.Fits) (rest : List Char) :
    behindRaw? .usual (b.source ++ rest) = some rest := by
  have hopening : behindRaw? .usual
      (b.opening.source rawWord ++ (b.body ++ (b.closing.source endrawWord ++ rest)))
        = firstPlace (rawMarker .usual endrawWord some)
          (b.body ++ (b.closing.source endrawWord ++ rest)) :=
    rawMarker_source isSolid_raw.1 h.opening _ _
  have hclosing : rawMarker .usual endrawWord some (b.closing.source endrawWord ++ rest)
      = some rest := rawMarker_source isSolid_raw.2 h.closing some rest
  have hbody : firstPlace (rawMarker .usual endrawWord some)
      (b.body ++ (b.closing.source endrawWord ++ rest)) = some rest := by
    refine firstPlace_append (fun s hs hne => ?_) hclosing
    cases hfound : rawMarker .usual endrawWord some
        (s ++ (b.closing.source endrawWord ++ rest)) with
    | none => rfl
    | some found =>
        obtain ⟨m, behind, hm, hsource, -⟩ := exists_of_rawMarker hfound
        have hclosed := isInfix_of_marker hm (by decide) hne hsource
        exact absurd (hclosed.trans hs.isInfix) (h.unclosed m hm)
  rw [RawBlock.source, List.append_assoc, List.append_assoc]
  exact hopening.trans hbody

/-- Only raw blocks are found. -/
theorem exists_of_behindRaw? (h : behindRaw? .usual cs = some rest) :
    ∃ b : RawBlock, b.Fits ∧ cs = b.source ++ rest := by
  obtain ⟨opening, behind, hopening, rfl, hbody⟩ := exists_of_rawMarker h
  obtain ⟨body, behind, rfl, hclosing, hfirst⟩ := exists_of_firstPlace hbody
  obtain ⟨closing, excess, hfits, rfl, heq⟩ := exists_of_rawMarker hclosing
  obtain rfl : excess = rest := Option.some.inj heq
  refine ⟨⟨opening, body, closing⟩, ⟨hopening, hfits, ?_⟩, by simp [RawBlock.source]⟩
  rintro m hm ⟨front, back, rfl⟩
  have hnone := hfirst (m.source endrawWord ++ back) ⟨front, by simp⟩ (by simp [Marker.source])
  rw [List.append_assoc] at hnone
  have hread : rawMarker .usual endrawWord some
      (m.source endrawWord ++ (back ++ (closing.source endrawWord ++ excess)))
        = some (back ++ (closing.source endrawWord ++ excess)) :=
    rawMarker_source isSolid_raw.2 hm some _
  exact absurd (hread.symm.trans hnone) (by simp)

end TagCloud.Template
