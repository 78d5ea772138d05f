import Mathlib.Data.List.Chain
import TagCloud.Proofs.Template.Literal
import TagCloud.Proofs.Template.Segment

/-!
# Tags that overrun a comment

A tag that begins in a comment and ends behind it takes the end of the comment into its directive,
and the directive is written as a string. For the rest of the template to come out right, the end of
the string, its quote, would have to be what follows the directive in the template itself, and that
is a blank, a hyphen or a sign.

That the end of the comment is found in the string at one place only, and that nothing but the quote
can follow what the string has of the rest of the template, is shown on the text alone: where a text
agrees with its written form, it is written as it is.
-/

namespace TagCloud.Template

open TagCloud.Text TagCloud.Json

/-! ## Where a comment ends -/

/-- A comment as it stands in a template. -/
def comment (body : List Char) : List Char :=
  '{' :: '#' :: (body ++ ['#', '}'])

/-- No comment ends in a text. -/
def Endless (cs : List Char) : Prop :=
  ¬ ['#', '}'] <:+: cs

theorem endless_iff_isChain {cs : List Char} :
    Endless cs ↔ cs.IsChain fun c d => ¬ (c = '#' ∧ d = '}') := by
  rw [List.isChain_iff_forall_rel_of_append_cons_cons]
  constructor
  · rintro h c d front back rfl ⟨rfl, rfl⟩
    exact h ⟨front, back, by simp⟩
  · rintro h ⟨front, back, rfl⟩
    exact @h _ _ front back (by simp) ⟨rfl, rfl⟩

theorem Endless.of_isInfix {front cs : List Char} (h : Endless cs) (hin : front <:+: cs) :
    Endless front :=
  fun hend => h (hend.trans hin)

theorem endless_of_not_mem {cs : List Char} (h : '#' ∉ cs) : Endless cs := by
  rintro ⟨front, back, rfl⟩
  exact h (by simp)

theorem Endless.append {front back : List Char} (hfront : Endless front) (hback : Endless back)
    (h : front.getLast? = some '#' → back.head? ≠ some '}') : Endless (front ++ back) := by
  refine endless_iff_isChain.2 (List.isChain_append.2
    ⟨endless_iff_isChain.1 hfront, endless_iff_isChain.1 hback, ?_⟩)
  rintro c hc d hd ⟨rfl, rfl⟩
  exact h hc hd

/-- A text is cut at the first end of a comment in one way only. -/
theorem eq_of_endless {front front' back back' : List Char} (hfront : Endless front)
    (hfront' : Endless front') (h : front ++ '#' :: '}' :: back = front' ++ '#' :: '}' :: back') :
    front = front' ∧ back = back' := by
  have hexcess : ∀ {front excess back back' : List Char}, Endless (front ++ excess) →
      '#' :: '}' :: back = excess ++ '#' :: '}' :: back' → excess = [] := by
    intro front excess back back' hendless heq
    match excess with
    | [] => rfl
    | [c] => simp at heq
    | c :: d :: excess =>
        simp only [List.cons_append, List.cons.injEq] at heq
        obtain ⟨rfl, rfl, -⟩ := heq
        exact absurd ⟨front, excess, by simp⟩ hendless
  rcases List.append_eq_append_iff.1 h with ⟨excess, rfl, hback⟩ | ⟨excess, rfl, hback⟩
  · obtain rfl := hexcess hfront' hback
    simpa using hback
  · obtain rfl := hexcess hfront hback
    simpa using hback.symm

/-- What goes before the first end of a comment and does not take part in it goes before what is cut
off there. -/
theorem Endless.exists_more {front behind text back : List Char} (hfront : Endless front)
    (hlast : front.getLast? ≠ some '#') (h : front ++ behind = text ++ '#' :: '}' :: back) :
    ∃ more, text = front ++ more ∧ behind = more ++ '#' :: '}' :: back := by
  rcases List.append_eq_append_iff.1 h with ⟨more, htext, hbehind⟩ | ⟨more, rfl, hmore⟩
  · exact ⟨more, htext, hbehind⟩
  · match more with
    | [] => exact ⟨[], by simp, hmore.symm⟩
    | [c] =>
        obtain ⟨rfl, -⟩ := List.cons.inj hmore
        exact absurd (by simp) hlast
    | c :: d :: more =>
        simp only [List.cons_append, List.cons.injEq] at hmore
        obtain ⟨rfl, rfl, -⟩ := hmore
        exact absurd ⟨text, more, by simp⟩ hfront

/-! ## Written directives -/

theorem literalChar_hash : literalChar '#' = ['#'] := by
  decide

theorem hash_not_mem_literalChar {c : Char} (hc : c ≠ '#') : '#' ∉ literalChar c := by
  have hletter : ∀ letter, letterEscape? letter = some c → letter ≠ '#' := by
    rintro letter h rfl
    exact absurd h (by simp [letterEscape?])
  have hdigit : ∀ n < 16, hexDigit n ≠ '#' := by decide
  rcases literalChar_cases c with ⟨letter, h, hescape, -⟩ | ⟨-, h⟩ | ⟨h, -⟩
  · rw [h]
    simpa using (hletter letter hescape).symm
  · rw [h, List.mem_cons, List.mem_cons, not_or, not_or]
    refine ⟨by decide, by decide, fun hmem => ?_⟩
    obtain ⟨n, hn, heq⟩ := exists_of_mem_hexDigits hmem
    exact hdigit n hn heq.symm
  · rw [h]
    simpa using hc.symm

theorem head?_literalBody {cs : List Char} (h : (literalBody cs).head? = some '}') :
    cs.head? = some '}' := by
  cases cs with
  | nil => exact h
  | cons c cs =>
      rw [literalBody, List.flatMap_cons] at h
      rcases literalChar_cases c with ⟨letter, hc, -⟩ | ⟨-, hc⟩ | ⟨hc, -⟩
      · rw [hc] at h
        exact absurd h (by simp)
      · rw [hc] at h
        exact absurd h (by simp)
      · rw [hc] at h
        exact h

/-- Writing a directive makes no end of a comment. -/
theorem endless_literalBody {cs : List Char} (h : Endless cs) : Endless (literalBody cs) := by
  induction cs with
  | nil => exact h
  | cons c cs ih =>
      have hrest := ih (h.of_isInfix (List.suffix_cons c cs).isInfix)
      by_cases hc : c = '#'
      · subst hc
        have hhash : Endless (literalChar '#') := by
          rw [literalChar_hash, endless_iff_isChain]
          exact List.isChain_singleton _
        refine hhash.append hrest fun _ hhead => ?_
        obtain ⟨back, rfl⟩ := List.head?_eq_some_iff.1 (head?_literalBody hhead)
        exact h ⟨[], back, rfl⟩
      · refine Endless.append (endless_of_not_mem (hash_not_mem_literalChar hc)) hrest ?_
        exact fun hlast => absurd (List.mem_of_getLast? hlast) (hash_not_mem_literalChar hc)

theorem literalBody_append (front back : List Char) :
    literalBody (front ++ back) = literalBody front ++ literalBody back := by
  rw [literalBody, List.flatMap_append, literalBody, literalBody]

/-- The ways in which a character is written, as far as the front goes. -/
theorem literalChar_front (c : Char) :
    literalChar c = [c] ∨ (c = '\\' ∧ literalChar c = ['\\', '\\'])
      ∨ (c ≠ '\\' ∧ ∃ more, literalChar c = '\\' :: more) := by
  by_cases hc : c = '\\'
  · subst hc
    exact Or.inr (Or.inl ⟨rfl, by decide⟩)
  · rcases literalChar_cases c with ⟨letter, h, -⟩ | ⟨-, h⟩ | ⟨h, -⟩
    · exact Or.inr (Or.inr ⟨hc, _, h⟩)
    · exact Or.inr (Or.inr ⟨hc, _, h⟩)
    · exact Or.inl h

/-- Where a text agrees with its written form, of which some backslashes are left over from before,
either the next character is written as itself or backslashes are left over again. -/
theorem exists_leftover {n : Nat} {c : Char} {cs rest written : List Char}
    (h : c :: rest = List.replicate n '\\' ++ (literalBody (c :: cs) ++ written)) :
    ∃ k, rest = List.replicate k '\\' ++ (literalBody cs ++ written)
      ∧ (k = 0 → n = 0 ∧ literalChar c = [c]) := by
  rw [literalBody, List.flatMap_cons, ← literalBody, List.append_assoc] at h
  cases n with
  | zero =>
      rcases literalChar_front c with hc | ⟨-, hc⟩ | ⟨hne, more, hc⟩
      · rw [hc] at h
        exact ⟨0, (List.cons.inj h).2, fun _ => ⟨rfl, hc⟩⟩
      · rw [hc] at h
        exact ⟨1, (List.cons.inj h).2, fun hk => absurd hk (by simp)⟩
      · rw [hc] at h
        exact absurd (List.cons.inj h).1 hne
  | succ n =>
      obtain ⟨rfl, hrest⟩ := List.cons.inj h
      have hslash : literalChar '\\' = List.replicate 2 '\\' := by decide
      refine ⟨n + 2, ?_, fun hk => absurd hk (by simp)⟩
      rw [List.replicate_add, List.append_assoc, ← hslash]
      exact hrest

/-- A text that is followed by anything but a backslash agrees with its written form only if nothing
in it is written in another way: the backslashes that are left over once are never used up. -/
theorem literalBody_eq_self {n : Nat} {c : Char} {cs behind written : List Char} (hc : c ≠ '\\')
    (h : cs ++ c :: behind = List.replicate n '\\' ++ (literalBody cs ++ written)) :
    n = 0 ∧ literalBody cs = cs := by
  induction cs generalizing n with
  | nil =>
      cases n with
      | zero => exact ⟨rfl, rfl⟩
      | succ n => exact absurd (List.cons.inj h).1 hc
  | cons d cs ih =>
      obtain ⟨k, hrest, hk⟩ := exists_leftover h
      obtain ⟨rfl, hcs⟩ := ih hrest
      obtain ⟨rfl, hd⟩ := hk rfl
      exact ⟨rfl, by rw [literalBody, List.flatMap_cons, ← literalBody, hd, hcs]; rfl⟩

/-! ## What follows a comment that a tag goes on behind -/

theorem head?_expandTags (cs : List Char) : (expandTags .usual cs).head? = cs.head? := by
  cases hpiece : piece? .usual cs with
  | none =>
      cases cs with
      | nil => rw [expandTags_nil]
      | cons c cs => rw [expandTags_cons_of_piece? hpiece]; rfl
  | some found =>
      obtain ⟨s, hblock, -, rfl, hwritten⟩ := exists_of_piece? hpiece
      rw [expandTags_piece hpiece, hwritten]
      cases s with
      | text cs => exact hblock.elim
      | tag blanks t => rfl
      | raw b => rfl

/-- A tag and a raw block end with a closing delimiter. -/
theorem exists_source_close {s : Segment} (hblock : s.IsBlock) :
    ∃ front, s.source = front ++ ['%', '}'] := by
  cases s with
  | text cs => exact hblock.elim
  | tag blanks t =>
      exact ⟨'{' :: '%' :: (hyphen t.trimsLeft ++ (blanks ++ (tagWord ++ (t.body
        ++ hyphen t.trimsRight)))), by simp [Segment.source, Tag.source, Tag.inside]⟩
  | raw b =>
      exact ⟨b.opening.source rawWord ++ (b.body ++ '{' :: '%' :: (hyphen b.closing.trimsLeft
        ++ (b.closing.before ++ (endrawWord ++ (b.closing.behind
          ++ hyphen b.closing.trimsRight))))),
        by simp [Segment.source, RawBlock.source, Marker.source, Marker.inside]⟩

/-- A call that takes the place of a tag does not go on as the tag does. -/
theorem tag_ne_literalBody {n : Nat} {blanks behind behind' cs rest written : List Char} {t : Tag}
    {d : Char} (hsource : d :: (cs ++ behind) = t.source blanks ++ rest) :
    (Segment.tag blanks t).expanded ++ behind'
      ≠ List.replicate n '\\' ++ (literalBody (d :: cs) ++ '"' :: written) := by
  intro h
  obtain ⟨call, hcall⟩ : ∃ call, (Segment.tag blanks t).expanded ++ behind' = '{' :: '{' :: call :=
    ⟨_, rfl⟩
  obtain rfl : d = '{' := (List.cons.inj hsource).1
  rw [hcall] at h
  obtain ⟨k, hbrace, -⟩ := exists_leftover h
  cases k with
  | succ k => exact absurd (List.cons.inj hbrace).1 (by decide)
  | zero =>
      cases cs with
      | nil => exact absurd (List.cons.inj hbrace).1 (by decide)
      | cons e cs =>
          obtain rfl : e = '%' := (List.cons.inj (List.cons.inj hsource).2).1
          have hsign : literalBody ('%' :: cs) = '%' :: literalBody cs := rfl
          rw [hsign] at hbrace
          exact absurd (List.cons.inj hbrace).1 (by decide)

/-- A raw block does not end within a text in which no tag ends. -/
theorem exists_raw_over {b : RawBlock} {c : Char} {cs behind rest : List Char}
    (hcs : ¬ ['%', '}'] <:+: cs) (hsource : cs ++ c :: behind = b.source ++ rest) :
    ∃ excess, b.source = cs ++ c :: excess := by
  have hclose : ['%', '}'] <:+: b.source := by
    obtain ⟨front, hfront⟩ := exists_source_close (s := .raw b) trivial
    exact ⟨front, [], by rw [List.append_nil]; exact hfront.symm⟩
  rcases List.append_eq_append_iff.1 hsource with ⟨excess, hexcess, hbehind⟩ | ⟨excess, rfl, -⟩
  · cases excess with
    | nil =>
        rw [List.append_nil] at hexcess
        exact absurd (hexcess ▸ hclose) hcs
    | cons e excess =>
        obtain ⟨rfl, -⟩ := List.cons.inj hbehind
        exact ⟨excess, hexcess⟩
  · exact absurd (hclose.trans (List.prefix_append b.source excess).isInfix) hcs

/-- Behind a text in which no tag ends there is no quote, where the text would be written as a
string, unless one stands there. -/
theorem expandTags_ne_literalBody {n : Nat} {c : Char} {cs behind written : List Char}
    (hcs : ¬ ['%', '}'] <:+: cs) (hslash : c ≠ '\\') (hquote : c ≠ '"') :
    expandTags .usual (cs ++ c :: behind)
      ≠ List.replicate n '\\' ++ (literalBody cs ++ '"' :: written) := by
  induction cs generalizing n with
  | nil =>
      intro h
      have hhead := head?_expandTags (c :: behind)
      rw [← List.nil_append (c :: behind), h] at hhead
      cases n with
      | zero => exact hquote (Option.some.inj hhead).symm
      | succ n => exact hslash (Option.some.inj hhead).symm
  | cons d cs ih =>
      intro h
      cases hpiece : piece? .usual (d :: (cs ++ c :: behind)) with
      | none =>
          rw [List.cons_append, expandTags_cons_of_piece? hpiece] at h
          obtain ⟨k, hrest, -⟩ := exists_leftover h
          exact ih (fun hin => hcs (hin.trans (List.suffix_cons d cs).isInfix)) hrest
      | some found =>
          obtain ⟨s, hblock, -, hsource, hwritten⟩ := exists_of_piece? hpiece
          rw [List.cons_append, expandTags_piece hpiece, hwritten] at h
          cases s with
          | text cs => exact hblock.elim
          | tag blanks t => exact tag_ne_literalBody hsource h
          | raw b =>
              obtain ⟨excess, hexcess⟩ := exists_raw_over hcs hsource
              have hcopied : d :: cs ++ c :: (excess ++ expandTags .usual found.2)
                  = List.replicate n '\\' ++ (literalBody (d :: cs) ++ '"' :: written) := by
                rw [← h]
                show _ = b.source ++ _
                rw [hexcess]
                simp
              obtain ⟨rfl, hself⟩ := literalBody_eq_self hslash hcopied
              rw [hself] at hcopied
              exact hquote (List.cons.inj (List.append_cancel_left hcopied)).1

/-- What stands before the body of a tag. -/
def tagOpen (blanks : List Char) (t : Tag) : List Char :=
  '{' :: '%' :: (hyphen t.trimsLeft ++ (blanks ++ tagWord))

theorem source_eq_tagOpen (blanks : List Char) (t : Tag) :
    t.source blanks = tagOpen blanks t ++ (t.body ++ tagClose t.trimsRight []) := by
  simp [Tag.source, Tag.inside, tagOpen, tagClose]

theorem hash_not_mem_tagOpen {blanks : List Char} {t : Tag} (h : t.Fits blanks) :
    '#' ∉ tagOpen blanks t := by
  have hblanks : '#' ∉ blanks := fun hmem => absurd (h.blanks _ hmem) (by decide)
  have hhyphen : ∀ trims, '#' ∉ hyphen trims := by decide
  have hword : '#' ∉ tagWord := by decide
  simp [tagOpen, hblanks, hhyphen, hword]

theorem exists_front_of_not_mem {c : Char} {cs behind front back : List Char} (hc : c ∉ cs)
    (h : cs ++ behind = front ++ c :: back) :
    ∃ more, front = cs ++ more ∧ behind = more ++ c :: back := by
  rcases List.append_eq_append_iff.1 h with ⟨more, hfront, hbehind⟩ | ⟨more, rfl, hmore⟩
  · exact ⟨more, hfront, hbehind⟩
  · cases more with
    | nil => exact ⟨[], by simp, hmore.symm⟩
    | cons d more =>
        obtain ⟨rfl, -⟩ := List.cons.inj hmore
        exact absurd (by simp) hc

theorem exists_back_of_not_mem {c : Char} {cs ahead front back : List Char} (hc : c ∉ cs)
    (h : ahead ++ cs = front ++ c :: back) :
    ∃ more, ahead = front ++ c :: more ∧ back = more ++ cs := by
  rcases List.append_eq_append_iff.1 h with ⟨more, -, rfl⟩ | ⟨more, rfl, hmore⟩
  · exact absurd (by simp) hc
  · cases more with
    | nil =>
        rw [List.nil_append] at hmore
        exact absurd (by rw [← hmore]; simp) hc
    | cons d more =>
        obtain ⟨rfl, hback⟩ := List.cons.inj hmore
        exact ⟨more, rfl, hback⟩

/-- Where a comment ends within a tag, it ends within the body of the tag. -/
theorem exists_body_around {blanks front excess : List Char} {t : Tag} (h : t.Fits blanks)
    (hsource : t.source blanks = front ++ '#' :: '}' :: excess) :
    ∃ before back, front = tagOpen blanks t ++ before ∧ t.body = before ++ '#' :: '}' :: back
      ∧ excess = back ++ tagClose t.trimsRight [] := by
  have hclose : '#' ∉ tagClose t.trimsRight [] := by
    cases t.trimsRight with
    | true => decide
    | false => decide
  rw [source_eq_tagOpen] at hsource
  obtain ⟨before, rfl, hinside⟩ := exists_front_of_not_mem (hash_not_mem_tagOpen h) hsource
  obtain ⟨more, hbody, hexcess⟩ := exists_back_of_not_mem hclose hinside
  cases more with
  | nil =>
      rw [List.nil_append] at hexcess
      exact absurd (by rw [← hexcess]; rfl) (head?_tagClose_ne t.trimsRight [])
  | cons c back =>
      obtain ⟨rfl, rfl⟩ := List.cons.inj hexcess
      exact ⟨before, back, rfl, hbody, rfl⟩

/-- What follows the body of a tag, less the blanks at its end, is none of the characters that are
written in another way. -/
theorem exists_trimRight_append (trims : Bool) (cs rest : List Char) :
    ∃ c behind, cs ++ tagClose trims rest = trimRight cs ++ c :: behind ∧ c ≠ '\\' ∧ c ≠ '"' := by
  obtain ⟨pad, hpad, hcs⟩ := exists_blanks_behind cs
  cases pad with
  | nil =>
      rw [List.append_nil] at hcs
      rw [← hcs]
      cases trims with
      | true => exact ⟨'-', _, rfl, by decide, by decide⟩
      | false => exact ⟨'%', _, rfl, by decide, by decide⟩
  | cons c pad =>
      have hc : isBlank c = true := hpad c List.mem_cons_self
      refine ⟨c, pad ++ tagClose trims rest, ?_, ?_, ?_⟩
      · nth_rewrite 1 [hcs]
        simp
      · rintro rfl
        exact absurd hc (by decide)
      · rintro rfl
        exact absurd hc (by decide)

theorem trim_around (front back : List Char) :
    trim (front ++ '#' :: '}' :: back) = trimLeft front ++ '#' :: '}' :: trimRight back := by
  have hsign : trimRight ('}' :: back) = '}' :: trimRight back :=
    trimRight_append_of_not_blank (by decide) [] back
  rw [trim_append_of_not_blank (by decide), hsign]

/-- What stands before the directive in the call that takes the place of a tag, and its quote. -/
def callOpen (t : Tag) : List Char :=
  ['{', '{'] ++ hyphen t.trimsLeft ++ " tag_cloud(".toList ++ ['"']

/-- What stands behind the directive in the call that takes the place of a tag, and its quote. -/
def callClose (t : Tag) : List Char :=
  ") ".toList ++ hyphen t.trimsRight ++ ['}', '}']

theorem expanded_tag (blanks : List Char) (t : Tag) :
    (Segment.tag blanks t).expanded
      = callOpen t ++ (literalBody (trim t.body) ++ '"' :: callClose t) := by
  simp [Segment.expanded, callOpen, callClose, Json.literal]

theorem hash_not_mem_callOpen (t : Tag) : '#' ∉ callOpen t := by
  have hhyphen : ∀ trims, '#' ∉ hyphen trims := by decide
  simp [callOpen, hhyphen]

theorem hash_not_mem_callClose (t : Tag) : '#' ∉ callClose t := by
  have hhyphen : ∀ trims, '#' ∉ hyphen trims := by decide
  simp [callClose, hhyphen]

theorem endless_callOpen_append {t : Tag} {cs : List Char} (h : Endless cs) :
    Endless (callOpen t ++ cs) :=
  (endless_of_not_mem (hash_not_mem_callOpen t)).append h fun hlast =>
    absurd (List.mem_of_getLast? hlast) (hash_not_mem_callOpen t)

/-- A tag that begins in a comment and ends behind it spoils what follows. -/
theorem expanded_ne_of_tag {blanks text body excess behind : List Char} {t : Tag}
    (ht : t.Fits blanks) (hsource : t.source blanks = body ++ '#' :: '}' :: excess)
    (hbody : Endless body) (htext : Endless text) :
    (Segment.tag blanks t).expanded ++ expandTags .usual behind
      ≠ text ++ '#' :: '}' :: expandTags .usual (excess ++ behind) := by
  obtain ⟨before, back, rfl, hinside, rfl⟩ := exists_body_around ht hsource
  obtain ⟨c, more, hmore, hslash, hquote⟩ := exists_trimRight_append t.trimsRight back behind
  have hbefore : trimLeft before <:+: tagOpen blanks t ++ before :=
    ((List.dropWhile_suffix isBlank).trans (List.suffix_append _ _)).isInfix
  have hfront : Endless (callOpen t ++ literalBody (trimLeft before)) :=
    endless_callOpen_append (endless_literalBody (hbody.of_isInfix hbefore))
  have hback : trimRight back <:+: t.body := by
    obtain ⟨pad, -, hpad⟩ := exists_blanks_behind back
    exact ⟨before ++ ['#', '}'], pad, by rw [hinside]; nth_rewrite 2 [hpad]; simp⟩
  have hexpanded : (Segment.tag blanks t).expanded ++ expandTags .usual behind
      = callOpen t ++ literalBody (trimLeft before) ++ '#' :: '}' :: (literalBody (trimRight back)
        ++ '"' :: (callClose t ++ expandTags .usual behind)) := by
    have hsign : ∀ cs, literalBody ('#' :: '}' :: cs) = '#' :: '}' :: literalBody cs :=
      fun _ => rfl
    rw [expanded_tag, hinside, trim_around, literalBody_append, hsign]
    simp
  have hexcess : back ++ tagClose t.trimsRight [] ++ behind = trimRight back ++ c :: more := by
    rw [← hmore]
    simp [tagClose]
  intro h
  rw [hexpanded, hexcess] at h
  have hrest := (eq_of_endless hfront htext h).2
  exact expandTags_ne_literalBody (n := 0) (fun hin => ht.body.unclosed (hin.trans hback)) hslash
    hquote hrest.symm

end TagCloud.Template
