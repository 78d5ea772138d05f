import TagCloud.Proofs.Template.Overrun

/-!
# Comments in the source of a template

The first reading knows raw blocks and leaves them alone, but it knows no comments: what looks like
a tag in a comment is a tag, and a tag or a raw block that begins in a comment goes on behind it
when nothing in the comment closes it. As long as all that begins in a comment ends in it, the
comment becomes a comment again and everything behind it is read as it would be by itself. A raw
block may even end behind the comment, if all it covers there would be left as it is anyway. A tag
may not, whatever follows.
-/

namespace TagCloud.Template

open TagCloud.Text

/-! ## Comments in which everything ends -/

/-- In the body of a comment, which `rest` follows, everything that begins is closed again: at every
place that is reached either nothing begins, or a tag or a raw block that ends in the body, or a raw
block that covers `excess` behind the comment, and all in `excess` would be left as it is anyway. -/
inductive Closes (rest : List Char) : List Char → Prop
  | done : Closes rest []
  | copied {c : Char} {cs : List Char}
      (hnone : ∀ s : Segment, s.IsBlock → s.Fits → ¬ s.source <+: c :: (cs ++ '#' :: '}' :: rest))
      (hcs : Closes rest cs) : Closes rest (c :: cs)
  | within {s : Segment} {cs : List Char} (hblock : s.IsBlock) (hs : s.Fits)
      (hcs : Closes rest cs) : Closes rest (s.source ++ cs)
  | beyond {b : RawBlock} {cs excess behind : List Char} (hb : b.Fits)
      (hsource : b.source = cs ++ '#' :: '}' :: excess) (hrest : rest = excess ++ behind)
      (hexcess : expandTags .usual rest = excess ++ expandTags .usual behind) : Closes rest cs

/-- Nothing begins at a character that is no brace before a sign. -/
theorem not_source_isPrefix {s : Segment} {c : Char} {cs : List Char} (hblock : s.IsBlock)
    (h : c = '{' → cs.head? ≠ some '%') : ¬ s.source <+: c :: cs := by
  obtain ⟨more, hmore⟩ : ∃ more, s.source = '{' :: '%' :: more := by
    cases s with
    | text cs => exact hblock.elim
    | tag blanks t => exact ⟨_, rfl⟩
    | raw b => exact ⟨_, rfl⟩
  rintro ⟨behind, hsource⟩
  rw [hmore] at hsource
  obtain ⟨rfl, rfl⟩ := List.cons.inj hsource
  exact h rfl rfl

theorem Closes.text_append {cs more rest : List Char} (h : ¬ ['{', '%'] <:+: cs)
    (hhead : more.head? ≠ some '%') (hmore : Closes rest more) : Closes rest (cs ++ more) := by
  induction cs with
  | nil => exact hmore
  | cons c cs ih =>
      refine .copied (fun s hblock _ => not_source_isPrefix hblock ?_)
        (ih fun hin => h (hin.trans (List.suffix_cons c cs).isInfix))
      rintro rfl hsign
      match cs, more with
      | [], [] => exact absurd hsign (by simp)
      | [], d :: more => exact hhead hsign
      | d :: cs, _ =>
          obtain rfl : d = '%' := Option.some.inj hsign
          exact h ⟨[], cs, rfl⟩

/-- In a comment that is made up of complete segments everything is closed. -/
theorem closes_sourceOf {segments : List Segment} (h : WellFormed segments) (rest : List Char) :
    Closes rest (sourceOf segments) := by
  induction segments with
  | nil => exact .done
  | cons s segments ih =>
      have hs : s.Fits := h.fits s List.mem_cons_self
      cases s with
      | text cs =>
          have hhead : (sourceOf segments ++ []).head? ≠ some '%' := h.head?_ne (by simp)
          rw [List.append_nil] at hhead
          exact (ih h.tail).text_append hs hhead
      | tag blanks t => exact .within (s := .tag blanks t) trivial hs (ih h.tail)
      | raw b => exact .within (s := .raw b) trivial hs (ih h.tail)

/-! ## Comments are passed over -/

theorem expandTags_end (rest : List Char) :
    expandTags .usual ('#' :: '}' :: rest) = '#' :: '}' :: expandTags .usual rest := by
  rw [expandTags_cons rfl, expandTags_cons rfl]

theorem piece?_eq_none {cs : List Char}
    (h : ∀ s : Segment, s.IsBlock → s.Fits → ¬ s.source <+: cs) : piece? .usual cs = none := by
  cases hpiece : piece? .usual cs with
  | none => rfl
  | some found =>
      obtain ⟨s, hblock, hs, rfl, -⟩ := exists_of_piece? hpiece
      exact absurd (List.prefix_append _ _) (h s hblock hs)

theorem endless_expanded {s : Segment} (hs : Endless s.source) : Endless s.expanded := by
  cases s with
  | text cs => exact hs
  | tag blanks t =>
      have hbody : t.body <:+: t.source blanks :=
        ⟨tagOpen blanks t, tagClose t.trimsRight [], by rw [source_eq_tagOpen, List.append_assoc]⟩
      have hliteral := endless_literalBody (hs.of_isInfix ((trim_isInfix t.body).trans hbody))
      have hclose : '#' ∉ '"' :: callClose t := by
        simpa using hash_not_mem_callClose t
      rw [expanded_tag]
      exact endless_callOpen_append (hliteral.append (endless_of_not_mem hclose) fun _ => by simp)
  | raw b => exact hs

theorem getLast?_expanded {s : Segment} (hblock : s.IsBlock) :
    s.expanded.getLast? = some '}' := by
  cases s with
  | text cs => exact hblock.elim
  | tag blanks t => exact List.getLast?_append_of_ne_nil _ (by simp)
  | raw b =>
      obtain ⟨front, hfront⟩ := exists_source_close (s := .raw b) trivial
      exact (congrArg List.getLast? hfront).trans (by simp)

theorem head?_expanded {s : Segment} (hblock : s.IsBlock) :
    s.expanded.head? = some '{' := by
  cases s with
  | text cs => exact hblock.elim
  | tag blanks t => rfl
  | raw b => rfl

/-- A comment in which everything is closed becomes a comment again. -/
theorem Closes.exists_text {rest body : List Char} (h : Closes rest body) (hbody : Endless body) :
    ∃ text, Endless text ∧ text.head? = body.head?
      ∧ expandTags .usual (body ++ '#' :: '}' :: rest)
        = text ++ '#' :: '}' :: expandTags .usual rest := by
  induction h with
  | done => exact ⟨[], hbody, rfl, expandTags_end rest⟩
  | @copied c cs hnone _ ih =>
      obtain ⟨text, htext, hhead, hread⟩ := ih (hbody.of_isInfix (List.suffix_cons c cs).isInfix)
      refine ⟨c :: text, ?_, rfl, ?_⟩
      · have hfirst := (List.isChain_cons.1 (endless_iff_isChain.1 hbody)).1
        rw [← hhead] at hfirst
        exact endless_iff_isChain.2 (List.isChain_cons.2 ⟨hfirst, endless_iff_isChain.1 htext⟩)
      · rw [List.cons_append, expandTags_cons_of_piece? (piece?_eq_none hnone), hread]
        rfl
  | @within s cs hblock hs _ ih =>
      obtain ⟨text, htext, -, hread⟩ := ih (hbody.of_isInfix (List.suffix_append _ _).isInfix)
      refine ⟨s.expanded ++ text, ?_, ?_, ?_⟩
      · have hsource := hbody.of_isInfix (List.prefix_append _ _).isInfix
        refine (endless_expanded hsource).append htext fun hlast => ?_
        exact absurd (hlast.symm.trans (getLast?_expanded hblock)) (by decide)
      · rw [List.head?_append, head?_expanded hblock, head?_source_of_isBlock hblock]
        rfl
      · rw [List.append_assoc, expandTags_piece (piece?_source hblock hs _), hread,
          List.append_assoc]
  | @beyond b cs excess behind hb hsource hrest hexcess =>
      refine ⟨cs, hbody, rfl, ?_⟩
      have hpiece := piece?_source (s := .raw b) trivial hb behind
      have hwhole : cs ++ '#' :: '}' :: rest = b.source ++ behind := by
        rw [hsource, hrest]
        simp
      have hread : expandTags .usual (b.source ++ behind)
          = b.source ++ expandTags .usual behind := expandTags_piece hpiece
      rw [hwhole, hread, hsource, hexcess]
      simp

theorem closes_of_expandTags_cons {c : Char} {cs text rest : List Char}
    (hbody : Endless (c :: cs)) (htext : Endless text)
    (hpiece : piece? .usual (c :: (cs ++ '#' :: '}' :: rest)) = none)
    (h : expandTags .usual (c :: (cs ++ '#' :: '}' :: rest))
      = text ++ '#' :: '}' :: expandTags .usual rest)
    (ih : ∀ {text}, Endless text → expandTags .usual (cs ++ '#' :: '}' :: rest)
      = text ++ '#' :: '}' :: expandTags .usual rest → Closes rest cs) :
    Closes rest (c :: cs) := by
  rw [expandTags_cons_of_piece? hpiece] at h
  have hnone : ∀ s : Segment, s.IsBlock → s.Fits →
      ¬ s.source <+: c :: (cs ++ '#' :: '}' :: rest) := by
    rintro s hblock hs ⟨behind, hsource⟩
    exact absurd (hpiece.symm.trans (hsource ▸ piece?_source hblock hs behind)) (by simp)
  cases text with
  | nil =>
      obtain ⟨rfl, hrest⟩ := List.cons.inj h
      have hhead := head?_expandTags (cs ++ '#' :: '}' :: rest)
      rw [hrest] at hhead
      cases cs with
      | nil => exact absurd hhead (by simp)
      | cons d cs =>
          obtain rfl : '}' = d := Option.some.inj hhead
          exact absurd ⟨[], cs, rfl⟩ hbody
  | cons d text =>
      obtain ⟨rfl, hrest⟩ := List.cons.inj h
      exact .copied hnone (ih (htext.of_isInfix (List.suffix_cons c text).isInfix) hrest)

theorem closes_of_over {s : Segment} {body text excess behind : List Char} (hblock : s.IsBlock)
    (hs : s.Fits) (hbody : Endless body) (htext : Endless text)
    (hsource : s.source = body ++ '#' :: '}' :: excess)
    (h : s.expanded ++ expandTags .usual behind
      = text ++ '#' :: '}' :: expandTags .usual (excess ++ behind)) :
    Closes (excess ++ behind) body := by
  cases s with
  | text cs => exact hblock.elim
  | tag blanks t => exact absurd h (expanded_ne_of_tag hs hsource hbody htext)
  | raw b =>
      have hcopied : body ++ '#' :: '}' :: (excess ++ expandTags .usual behind)
          = text ++ '#' :: '}' :: expandTags .usual (excess ++ behind) := by
        have hexpanded : (Segment.raw b).expanded = body ++ '#' :: '}' :: excess := hsource
        rw [← h, hexpanded]
        simp
      exact .beyond hs hsource rfl (eq_of_endless hbody htext hcopied).2.symm

theorem closes_of_within {s : Segment} {more text rest : List Char} (hblock : s.IsBlock)
    (hs : s.Fits) (hbody : Endless (s.source ++ more)) (htext : Endless text)
    (h : s.expanded ++ expandTags .usual (more ++ '#' :: '}' :: rest)
      = text ++ '#' :: '}' :: expandTags .usual rest)
    (ih : ∀ {text}, Endless text → expandTags .usual (more ++ '#' :: '}' :: rest)
      = text ++ '#' :: '}' :: expandTags .usual rest → Closes rest more) :
    Closes rest (s.source ++ more) := by
  have hexpanded := endless_expanded (hbody.of_isInfix (List.prefix_append _ _).isInfix)
  have hlast : s.expanded.getLast? ≠ some '#' := by
    rw [getLast?_expanded hblock]
    decide
  obtain ⟨behind, rfl, hbehind⟩ := hexpanded.exists_more hlast h
  exact .within hblock hs (ih (htext.of_isInfix (List.suffix_append _ _).isInfix) hbehind)

/-- If everything behind a comment is read as it would be by itself, then everything in the comment
is closed. -/
theorem closes_of_expandTags {rest body text : List Char} (hbody : Endless body)
    (htext : Endless text)
    (h : expandTags .usual (body ++ '#' :: '}' :: rest)
      = text ++ '#' :: '}' :: expandTags .usual rest) : Closes rest body := by
  induction hlength : body.length using Nat.strong_induction_on generalizing body text with
  | _ n ih =>
      cases hpiece : piece? .usual (body ++ '#' :: '}' :: rest) with
      | none =>
          cases body with
          | nil => exact .done
          | cons c cs =>
              refine closes_of_expandTags_cons hbody htext hpiece h fun htext hrest => ?_
              exact ih cs.length (by rw [← hlength]; simp)
                (hbody.of_isInfix (List.suffix_cons c cs).isInfix) htext hrest rfl
      | some found =>
          obtain ⟨written, behind⟩ := found
          obtain ⟨s, hblock, hs, hsource, rfl⟩ := exists_of_piece? hpiece
          rw [expandTags_piece hpiece] at h
          have hwithin : ∀ more, body = s.source ++ more →
              behind = more ++ '#' :: '}' :: rest → Closes rest body := by
            rintro more rfl rfl
            refine closes_of_within hblock hs hbody htext h fun htext hrest => ?_
            have hshorter : more.length < n := by
              obtain ⟨front, hfront⟩ := exists_source_close hblock
              rw [← hlength, hfront]
              simp
              omega
            exact ih more.length hshorter
              (hbody.of_isInfix (List.suffix_append _ _).isInfix) htext hrest rfl
          rcases List.append_eq_append_iff.1 hsource with
            ⟨excess, hexcess, hbehind⟩ | ⟨more, hmore, hbehind⟩
          · match excess with
            | [] => exact hwithin [] (by simpa using hexcess.symm) (by simpa using hbehind.symm)
            | [c] =>
                obtain ⟨front, hfront⟩ := exists_source_close hblock
                obtain ⟨rfl, -⟩ := List.cons.inj hbehind
                rw [hfront] at hexcess
                exact absurd (congrArg List.getLast? hexcess) (by simp)
            | c :: d :: excess =>
                simp only [List.cons_append, List.cons.injEq] at hbehind
                obtain ⟨rfl, rfl, rfl⟩ := hbehind
                exact closes_of_over hblock hs hbody htext hexcess h
          · exact hwithin more hmore hbehind

/-- A comment behind some segments is passed over as a comment, and all that follows it is read as
it would be by itself, exactly if everything in the comment is closed. -/
theorem expandTags_comment_iff {front : List Segment} {body rest : List Char}
    (hfront : WellFormed front) (hbody : ¬ ['#', '}'] <:+: body) :
    (∃ text, ¬ ['#', '}'] <:+: text
        ∧ expandTags .usual (sourceOf front ++ comment body ++ rest)
          = expandTags .usual (sourceOf front) ++ comment text ++ expandTags .usual rest)
      ↔ Closes rest body := by
  have hread : expandTags .usual (sourceOf front ++ comment body ++ rest)
      = expandTags .usual (sourceOf front)
        ++ '{' :: '#' :: expandTags .usual (body ++ '#' :: '}' :: rest) := by
    have hsource : sourceOf front ++ comment body ++ rest
        = sourceOf front ++ '{' :: '#' :: (body ++ '#' :: '}' :: rest) := by
      simp [comment]
    rw [hsource, expandTags_behind hfront (by simp), expandTags_cons rfl, expandTags_cons rfl]
  have hcomment : ∀ text, expandTags .usual (sourceOf front) ++ comment text
      ++ expandTags .usual rest = expandTags .usual (sourceOf front)
        ++ '{' :: '#' :: (text ++ '#' :: '}' :: expandTags .usual rest) := by
    intro text
    simp [comment]
  constructor
  · rintro ⟨text, htext, h⟩
    rw [hread, hcomment, List.append_cancel_left_eq] at h
    simp only [List.cons.injEq, true_and] at h
    exact closes_of_expandTags hbody htext h
  · intro h
    obtain ⟨text, htext, -, hclosed⟩ := h.exists_text hbody
    exact ⟨text, htext, by rw [hread, hcomment, hclosed]⟩

/-- A comment that mentions a tag. -/
def mention : List Segment :=
  [.text " see ".toList, .tag [' '] ⟨false, " limit: 3 ".toList, false⟩, .text [' ']]

theorem expandTags_comment_iff_mention :
    WellFormed [.text "a ".toList] ∧ ¬ ['#', '}'] <:+: sourceOf mention
      ∧ ∃ text, ¬ ['#', '}'] <:+: text
        ∧ expandTags .usual (sourceOf [.text "a ".toList] ++ comment (sourceOf mention) ++ ['b'])
          = expandTags .usual (sourceOf [.text "a ".toList]) ++ comment text
            ++ expandTags .usual ['b'] := by
  have hfront : WellFormed [.text "a ".toList] := by
    refine ⟨fun s hs => ?_, List.isChain_singleton _⟩
    obtain rfl := List.mem_singleton.1 hs
    show ¬ ['{', '%'] <:+: "a ".toList
    decide
  have hmention : WellFormed mention := by
    refine ⟨fun s hs => ?_, by simp [mention, Segment.IsBlock]⟩
    simp only [mention, List.mem_cons, List.not_mem_nil, or_false] at hs
    rcases hs with rfl | rfl | rfl
    · show ¬ ['{', '%'] <:+: " see ".toList
      decide
    · exact ⟨by decide, stops_cons (by decide), by decide, by decide⟩
    · show ¬ ['{', '%'] <:+: [' ']
      decide
  have hbody : ¬ ['#', '}'] <:+: sourceOf mention := by decide
  exact ⟨hfront, hbody, (expandTags_comment_iff hfront hbody).2 (closes_sourceOf hmention _)⟩

/-- The beginning of a tag, as a comment may mention it. -/
def opened : List Char :=
  ['{', '%'] ++ " tag_cloud ".toList

/-- A tag that stands alone. -/
def single : List Segment :=
  [.tag [' '] ⟨false, " limit: 1 ".toList, false⟩]

/-- A tag that is opened in a comment ends with the next tag, and takes the end of the comment and
all of that tag along. -/
theorem comment_not_passed :
    WellFormed [] ∧ WellFormed single ∧ ¬ ['#', '}'] <:+: opened
      ∧ ¬ ∃ text, ¬ ['#', '}'] <:+: text
        ∧ expandTags .usual (sourceOf [] ++ comment opened ++ sourceOf single)
          = expandTags .usual (sourceOf []) ++ comment text
            ++ expandTags .usual (sourceOf single) := by
  have hsingle : WellFormed single := by
    refine ⟨fun s hs => ?_, List.isChain_singleton _⟩
    obtain rfl := List.mem_singleton.1 hs
    exact ⟨by decide, stops_cons (by decide), by decide, by decide⟩
  have hopened : ¬ ['#', '}'] <:+: opened := by decide
  refine ⟨⟨by simp, List.isChain_nil⟩, hsingle, hopened, ?_⟩
  rintro ⟨text, htext, h⟩
  let t : Tag := ⟨false, " #\x7d\x7b% tag_cloud limit: 1 ".toList, false⟩
  have ht : t.Fits [' '] := ⟨by decide, stops_cons (by decide), by decide, by decide⟩
  have hsource : t.source [' '] = opened ++ '#' :: '}' :: sourceOf single := by decide
  have hread : expandTags .usual (sourceOf [] ++ comment opened ++ sourceOf single)
      = '{' :: '#' :: ((Segment.tag [' '] t).expanded ++ expandTags .usual []) := by
    have hpiece := piece?_source (s := .tag [' '] t) trivial ht []
    have hcomment : sourceOf [] ++ comment opened ++ sourceOf single
        = '{' :: '#' :: ((Segment.tag [' '] t).source ++ []) := by decide
    rw [hcomment, expandTags_cons rfl, expandTags_cons rfl, expandTags_piece hpiece]
  have hmade : expandTags .usual (sourceOf []) ++ comment text
      ++ expandTags .usual (sourceOf single)
        = '{' :: '#' :: (text ++ '#' :: '}' :: expandTags .usual (sourceOf single ++ [])) := by
    rw [show sourceOf [] = [] from rfl, expandTags_nil]
    simp [comment]
  rw [hread, hmade] at h
  exact expanded_ne_of_tag ht hsource hopened htext (List.cons.inj (List.cons.inj h).2).2

end TagCloud.Template
