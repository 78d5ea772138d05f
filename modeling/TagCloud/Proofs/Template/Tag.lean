import TagCloud.Proofs.Template.RawBlock

/-!
# Tags in the source of a template

What the first reading of a template does is said for the usual delimiters and along the source. A
text is copied up to where a block begins; a tag whose body holds no closing delimiter is found as a
whole, whatever stands in the body and whatever follows the tag, and is replaced by its call.
-/

namespace TagCloud.Template

open TagCloud.Text

/-! ## Copied texts -/

theorem piece?_of_behind? {cs : List Char} (h : behind? ['{', '%'] cs = none) :
    piece? .usual cs = none := by
  have hraw : behindRaw? .usual cs = none := by
    rw [behindRaw?, rawMarker, after, Delimiters.usual, h]
  have htag : tag? .usual cs = none := by
    rw [tag?, after, Delimiters.usual, h]
  rw [piece?, hraw, htag]
  rfl

theorem expandTags_nil : expandTags .usual [] = [] := by
  rw [expandTags]
  split
  · next heq => rw [piece?_of_behind? rfl] at heq; exact absurd heq (by simp)
  · rfl

/-- A character at which no piece is found is copied. -/
theorem expandTags_cons_of_piece? {c : Char} {cs : List Char}
    (h : piece? .usual (c :: cs) = none) :
    expandTags .usual (c :: cs) = c :: expandTags .usual cs := by
  rw [expandTags]
  split
  · next heq => rw [h] at heq; exact absurd heq (by simp)
  · rfl

/-- A character with which no block begins is copied. -/
theorem expandTags_cons {c : Char} {cs : List Char} (h : behind? ['{', '%'] (c :: cs) = none) :
    expandTags .usual (c :: cs) = c :: expandTags .usual cs :=
  expandTags_cons_of_piece? (piece?_of_behind? h)

/-- A piece is replaced, whatever stands before and behind it. -/
theorem expandTags_piece {cs written rest : List Char}
    (h : piece? .usual cs = some (written, rest)) :
    expandTags .usual cs = written ++ expandTags .usual rest := by
  rw [expandTags]
  split
  · next heq =>
      rw [h] at heq
      obtain ⟨rfl, rfl⟩ := Prod.mk.inj (Option.some.inj heq)
      rfl
  · next heq => rw [h] at heq; exact absurd heq (by simp)

/-! ## Bodies of tags -/

/-- No tag ends within a text, and none that ends behind it has its hyphen in it. -/
structure Open (trims : Bool) (cs : List Char) : Prop where
  unclosed : ¬ ['%', '}'] <:+: cs
  noHyphen : trims = false → cs.getLast? ≠ some '-'

theorem Open.tail {trims : Bool} {c : Char} {cs : List Char} (h : Open trims (c :: cs)) :
    Open trims cs where
  unclosed := fun hin => h.unclosed (hin.trans (List.suffix_cons c cs).isInfix)
  noHyphen := by
    intro htrims
    cases cs with
    | nil => simp
    | cons d ds => simpa [List.getLast?_cons_cons] using h.noHyphen htrims

theorem behind?_close {c : Char} {cs rest : List Char} (h : ¬ ['%', '}'] <:+: c :: cs)
    (hrest : rest.head? ≠ some '}') : behind? ['%', '}'] (c :: (cs ++ rest)) = none := by
  cases hb : behind? ['%', '}'] (c :: (cs ++ rest)) with
  | none => rfl
  | some behind =>
      obtain ⟨rfl, hcs⟩ := List.cons.inj (behind?_eq_some_iff.1 hb)
      cases cs with
      | nil =>
          rw [List.nil_append] at hcs
          exact absurd (by rw [hcs]; rfl) hrest
      | cons d ds =>
          obtain ⟨rfl, -⟩ := List.cons.inj hcs
          exact absurd ⟨[], ds, rfl⟩ h

/-- What follows the body of a tag. -/
def tagClose (trims : Bool) (rest : List Char) : List Char :=
  hyphen trims ++ '%' :: '}' :: rest

theorem head?_tagClose_ne (trims : Bool) (rest : List Char) :
    (tagClose trims rest).head? ≠ some '}' := by
  cases trims with
  | true => simp [tagClose, hyphen]
  | false => simp [tagClose, hyphen]

theorem tagEnd?_tagClose (trims : Bool) (rest : List Char) :
    tagEnd? .usual (tagClose trims rest) = some (trims, rest) := by
  cases trims with
  | true => simp [tagClose, tagEnd?, Delimiters.usual, behind?, hyphen]
  | false => simp [tagClose, tagEnd?, Delimiters.usual, behind?, hyphen]

theorem tagEnd?_eq_some {trims : Bool} {cs rest : List Char}
    (h : tagEnd? .usual cs = some (trims, rest)) : cs = tagClose trims rest := by
  have hplain : ∀ {cs : List Char}, ((behind? ['%', '}'] cs).map fun rest => (false, rest))
      = some (trims, rest) → cs = tagClose trims rest := by
    intro cs heq
    obtain ⟨behind, hbehind, hmade⟩ := Option.map_eq_some_iff.1 heq
    obtain ⟨rfl, rfl⟩ := Prod.mk.inj hmade
    have hcs : cs = ['%', '}'] ++ behind := behind?_eq_some_iff.1 hbehind
    exact hcs
  unfold tagEnd? at h
  simp only [Delimiters.usual] at h
  split at h
  · split at h
    · next hbehind =>
        obtain ⟨rfl, rfl⟩ := Prod.mk.inj (Option.some.inj h)
        rw [behind?_eq_some_iff.1 hbehind]
        rfl
    · exact hplain h
  · exact hplain h

theorem tagEnd?_open {trims : Bool} {c : Char} {cs rest : List Char} (h : Open trims (c :: cs)) :
    tagEnd? .usual (c :: (cs ++ tagClose trims rest)) = none := by
  have hhead := head?_tagClose_ne trims rest
  have hfront := behind?_close h.unclosed hhead
  unfold tagEnd?
  simp only [Delimiters.usual, hfront, Option.map_none]
  split
  · next more heq =>
      obtain ⟨rfl, rfl⟩ := List.cons.inj heq
      cases cs with
      | nil =>
          cases trims with
          | true => rfl
          | false => exact absurd rfl (h.noHyphen rfl)
      | cons d ds =>
          rw [List.cons_append, behind?_close h.tail.unclosed hhead]
  · rfl

/-- A body in which no tag ends is read up to the end that follows it. -/
theorem untilTagEnd?_open {trims : Bool} {body : List Char} (h : Open trims body)
    (rest : List Char) :
    untilTagEnd? .usual (body ++ tagClose trims rest) = some (body, trims, rest) := by
  induction body with
  | nil =>
      have hend := tagEnd?_tagClose trims rest
      cases hclose : tagClose trims rest with
      | nil => exact absurd hclose (by simp [tagClose])
      | cons c cs =>
          rw [hclose] at hend
          rw [List.nil_append, untilTagEnd?, hend]
  | cons c cs ih =>
      rw [List.cons_append, untilTagEnd?, tagEnd?_open h, ih h.tail]
      rfl

/-- Only bodies in which no tag ends are read. -/
theorem open_of_untilTagEnd? {trims : Bool} {cs body rest : List Char}
    (h : untilTagEnd? .usual cs = some (body, trims, rest)) :
    cs = body ++ tagClose trims rest ∧ Open trims body := by
  induction cs generalizing body with
  | nil => exact absurd h (by simp [untilTagEnd?, tagEnd?, Delimiters.usual, behind?])
  | cons c cs ih =>
      rw [untilTagEnd?] at h
      split at h
      · next hend =>
          simp only [Option.some.injEq, Prod.mk.injEq] at h
          obtain ⟨rfl, rfl, rfl⟩ := h
          exact ⟨tagEnd?_eq_some hend, by simp, by simp⟩
      · next hnone =>
          obtain ⟨⟨inside, trims, rest⟩, hmore, hmade⟩ := Option.map_eq_some_iff.1 h
          simp only [Prod.mk.injEq] at hmade
          obtain ⟨rfl, rfl, rfl⟩ := hmade
          obtain ⟨rfl, hopen⟩ := ih hmore
          refine ⟨rfl, fun hin => ?_, fun htrims => ?_⟩
          · rcases List.infix_cons_iff.1 hin with ⟨behind, hbehind⟩ | hin
            · have hcs : c :: (inside ++ tagClose trims rest)
                  = tagClose false (behind ++ tagClose trims rest) := by
                rw [← List.cons_append, ← hbehind]
                rfl
              exact absurd (hnone.symm.trans (hcs ▸ tagEnd?_tagClose false _)) (by simp)
            · exact hopen.unclosed hin
          · cases inside with
            | nil =>
                intro hlast
                obtain rfl : c = '-' := Option.some.inj hlast
                subst htrims
                exact absurd (hnone.symm.trans (tagEnd?_tagClose true rest)) (by simp)
            | cons d ds =>
                rw [List.getLast?_cons_cons]
                exact hopen.noHyphen htrims

/-! ## Tags -/

/-- A tag behind the brace that opens it, with some blanks before its name. -/
def Tag.inside (blanks : List Char) (t : Tag) : List Char :=
  '%' :: (hyphen t.trimsLeft ++ (blanks ++ (tagWord ++ (t.body ++ (hyphen t.trimsRight
    ++ ['%', '}'])))))

/-- A tag as it stands in a template. -/
def Tag.source (blanks : List Char) (t : Tag) : List Char :=
  '{' :: t.inside blanks

/-- The blanks before the name of a tag are blanks, the name ends where its word ends, and the body
ends where the tag ends. -/
structure Tag.Fits (blanks : List Char) (t : Tag) : Prop where
  blanks : AllBlank blanks
  ends : Stops isWord t.body
  body : Open t.trimsRight t.body

theorem isSolid_tag : IsSolid 't' :=
  ⟨by decide, by decide⟩

/-- The body of a tag, or the end that follows it, ends the word before it. -/
theorem Tag.Fits.endsWord {blanks : List Char} {t : Tag} (h : t.Fits blanks) (rest : List Char) :
    endsWord (t.body ++ tagClose t.trimsRight rest) = true := by
  refine endsWord_of_stops ?_
  cases hbody : t.body with
  | nil =>
      cases t.trimsRight with
      | true => exact stops_cons (by decide)
      | false => exact stops_cons (by decide)
  | cons c cs =>
      have hends := h.ends
      rw [hbody] at hends
      exact stops_cons (hends c rfl)

theorem tagRest?_source {blanks : List Char} {t : Tag} (h : t.Fits blanks) (rest : List Char) :
    tagRest? .usual t.trimsLeft (blanks ++ (tagWord ++ (t.body ++ tagClose t.trimsRight rest)))
      = some (t, rest) := by
  have hword : ∀ cs, Stops isBlank (tagWord ++ cs) := fun _ => stops_cons isSolid_tag.1
  have hblank : ∀ c, isBlank c = true → c ≠ 't' := by
    rintro c hc rfl
    exact absurd hc (by decide)
  rw [tagRest?, afterBlanks_append h.blanks (hword _), after_append]
  · simp only [h.endsWord rest, if_true, untilTagEnd?_open h.body]
    rfl
  · exact fun c cs hc => after_of_ne (hblank c hc)

/-- A tag is found as a whole, whatever follows it. -/
theorem tag?_source {blanks : List Char} {t : Tag} (h : t.Fits blanks) (rest : List Char) :
    tag? .usual (t.source blanks ++ rest) = some (t, rest) := by
  have hsource : t.source blanks ++ rest = ['{', '%'] ++ (hyphen t.trimsLeft ++ (blanks
      ++ (tagWord ++ (t.body ++ tagClose t.trimsRight rest)))) := by
    simp [Tag.source, Tag.inside, tagClose]
  have hstart : Delimiters.usual.blockStart = ['{', '%'] := rfl
  have hrest := tagRest?_source h rest
  rw [tag?, hsource, hstart, after_append]
  cases htrims : t.trimsLeft with
  | true =>
      rw [htrims] at hrest
      rw [show hyphen true = ['-'] from rfl, List.singleton_append]
      simp only [hrest]
  | false =>
      rw [htrims] at hrest
      rw [show hyphen false = [] from rfl, List.nil_append]
      split
      · next heq =>
          exact absurd (congrArg List.head? heq) (isSolid_tag.head?_ne h.blanks rfl)
      · exact hrest

theorem exists_of_tagRest? {trimsLeft : Bool} {t : Tag} {cs rest : List Char}
    (h : tagRest? .usual trimsLeft cs = some (t, rest)) :
    ∃ blanks, t.Fits blanks ∧ t.trimsLeft = trimsLeft
      ∧ cs = blanks ++ (tagWord ++ (t.body ++ tagClose t.trimsRight rest)) := by
  unfold tagRest? at h
  obtain ⟨blanks, _, hblanks, rfl, h₁⟩ := exists_of_afterBlanks h
  obtain ⟨_, rfl, h₂⟩ := after_eq_some.1 h₁
  split at h₂
  · next hends =>
      obtain ⟨⟨body, trims, rest⟩, hbody, hmade⟩ := Option.map_eq_some_iff.1 h₂
      simp only [Prod.mk.injEq] at hmade
      obtain ⟨rfl, rfl⟩ := hmade
      obtain ⟨rfl, hopen⟩ := open_of_untilTagEnd? hbody
      refine ⟨blanks, ⟨hblanks, fun c hc => ?_, hopen⟩, rfl, rfl⟩
      cases body with
      | nil => exact absurd hc (by simp)
      | cons d ds =>
          obtain rfl : d = c := Option.some.inj hc
          simpa [endsWord] using hends
  · exact absurd h₂ (by simp)

/-- Only tags are found. -/
theorem exists_of_tag? {t : Tag} {cs rest : List Char} (h : tag? .usual cs = some (t, rest)) :
    ∃ blanks, t.Fits blanks ∧ cs = t.source blanks ++ rest := by
  have hmade : ∀ {trims : Bool} {cs : List Char}, tagRest? .usual trims cs = some (t, rest) →
      ∃ blanks, t.Fits blanks ∧ '{' :: '%' :: (hyphen trims ++ cs) = t.source blanks ++ rest := by
    intro trims cs hrest
    obtain ⟨blanks, hfits, rfl, rfl⟩ := exists_of_tagRest? hrest
    exact ⟨blanks, hfits, by simp [Tag.source, Tag.inside, tagClose]⟩
  obtain ⟨behind, rfl, hbehind⟩ := after_eq_some.1 h
  split at hbehind
  · split at hbehind
    · next heq => exact hmade (heq.trans hbehind)
    · exact hmade hbehind
  · exact hmade hbehind

/-- No raw block begins where a tag begins: behind what may stand before either word, the words
differ. -/
theorem behindRaw?_tag {blanks : List Char} {t : Tag} (h : t.Fits blanks) (rest : List Char) :
    behindRaw? .usual (t.source blanks ++ rest) = none := by
  cases hfound : behindRaw? .usual (t.source blanks ++ rest) with
  | none => rfl
  | some behind =>
      obtain ⟨m, _, hm, hsource, -⟩ := exists_of_rawMarker hfound
      simp only [Tag.source, Tag.inside, Marker.source, Marker.inside, List.cons_append,
        List.append_assoc, List.cons.injEq, true_and] at hsource
      have hdropped := congrArg (List.dropWhile fun c => isBlank c || c == '-') hsource
      rw [dropWhile_decorated t.trimsLeft h.blanks isSolid_tag rfl,
        dropWhile_decorated m.trimsLeft hm.before isSolid_raw.1 rfl] at hdropped
      exact absurd (List.cons.inj hdropped).1 (by decide)

theorem piece?_tag {blanks : List Char} {t : Tag} (h : t.Fits blanks) (rest : List Char) :
    piece? .usual (t.source blanks ++ rest) = some (t.call .usual, rest) := by
  rw [piece?, behindRaw?_tag h, tag?_source h]
  rfl

/-! ## Directives in tags -/

/-- A directive as a tag of a template. -/
def tagged (directive : List Char) : List Char :=
  '{' :: '%' :: ' ' :: tagWord ++ ' ' :: directive ++ [' ', '%', '}']

/-- A printed call for a cloud with an argument. -/
def calling (argument : List Char) : List Char :=
  '{' :: '{' :: ' ' :: tagWord ++ '(' :: argument ++ [')', ' ', '}', '}']

end TagCloud.Template
