import Mathlib.Data.List.Chain
import TagCloud.Proofs.Template.Tag

/-!
# Templates put together from segments

The source of a template is a row of segments: texts in which no block begins, tags and raw blocks.
The first reading goes through the flat source and knows nothing of segments, and yet it finds them
again, each where it begins and each up to where it ends. So it works on every segment by itself:
texts and raw blocks are kept, tags are replaced by their calls.

Two texts must not stand next to each other, since a brace at the end of the one and a sign at the
front of the other would open a block between them. All other segments begin with a brace, so that
nothing before them opens a block together with them.
-/

namespace TagCloud.Template

open TagCloud.Text

/-! ## Segments -/

/-- A part of the source of a template: a text, a tag with the blanks before its name, or a raw
block. -/
inductive Segment
  | text (cs : List Char)
  | tag (blanks : List Char) (t : Tag)
  | raw (b : RawBlock)

namespace Segment

/-- A segment as it stands in a template. -/
def source : Segment → List Char
  | text cs => cs
  | tag blanks t => t.source blanks
  | raw b => b.source

/-- What the first reading makes of a segment. A tag becomes a printed call with its body, without
the blanks around it, as a JSON string, and keeps its hyphens. -/
def expanded : Segment → List Char
  | text cs => cs
  | tag _ t =>
    ['{', '{'] ++ hyphen t.trimsLeft ++ " tag_cloud(".toList ++ Json.literal (trim t.body)
      ++ ") ".toList ++ hyphen t.trimsRight ++ ['}', '}']
  | raw b => b.source

/-- A segment is complete: no block begins in a text, and a tag or a raw block ends where it seems
to end. -/
def Fits : Segment → Prop
  | text cs => ¬ ['{', '%'] <:+: cs
  | tag blanks t => t.Fits blanks
  | raw b => b.Fits

/-- A segment that begins with an opening delimiter. -/
def IsBlock : Segment → Prop
  | text _ => False
  | tag .. | raw _ => True

end Segment

/-- The source that some segments make up. -/
def sourceOf (segments : List Segment) : List Char :=
  segments.flatMap Segment.source

/-- Complete segments, no two of them texts next to each other. -/
structure WellFormed (segments : List Segment) : Prop where
  fits : ∀ s ∈ segments, s.Fits
  apart : segments.IsChain fun s t => s.IsBlock ∨ t.IsBlock

/-! ## One segment -/

theorem piece?_raw {b : RawBlock} (h : b.Fits) (rest : List Char) :
    piece? .usual (b.source ++ rest) = some (b.source, rest) := by
  rw [piece?, behindRaw?_source h]
  simp

theorem call_usual (blanks : List Char) (t : Tag) :
    t.call .usual = (Segment.tag blanks t).expanded := by
  simp [Tag.call, Segment.expanded, Delimiters.usual, tagWord]

/-- A tag or a raw block is found where it begins, whatever follows it. -/
theorem piece?_source {s : Segment} (hblock : s.IsBlock) (hs : s.Fits) (rest : List Char) :
    piece? .usual (s.source ++ rest) = some (s.expanded, rest) := by
  cases s with
  | text cs => exact hblock.elim
  | tag blanks t => rw [← call_usual]; exact piece?_tag hs rest
  | raw b => exact piece?_raw hs rest

/-- Nothing but tags and raw blocks is found. -/
theorem exists_of_piece? {cs written rest : List Char}
    (h : piece? .usual cs = some (written, rest)) :
    ∃ s : Segment, s.IsBlock ∧ s.Fits ∧ cs = s.source ++ rest ∧ written = s.expanded := by
  unfold piece? at h
  split at h
  · next behind hraw =>
      obtain ⟨b, hb, rfl⟩ := exists_of_behindRaw? hraw
      obtain ⟨rfl, rfl⟩ := Prod.mk.inj (Option.some.inj h)
      exact ⟨.raw b, trivial, hb, rfl, by simp [Segment.expanded]⟩
  · obtain ⟨⟨t, rest⟩, htag, hmade⟩ := Option.map_eq_some_iff.1 h
    obtain ⟨rfl, rfl⟩ := Prod.mk.inj hmade
    obtain ⟨blanks, ht, rfl⟩ := exists_of_tag? htag
    exact ⟨.tag blanks t, trivial, ht, rfl, call_usual blanks t⟩

/-- A text is copied, unless what follows makes its last brace open a block. -/
theorem expandTags_text {cs rest : List Char} (h : ¬ ['{', '%'] <:+: cs)
    (hrest : rest.head? ≠ some '%') :
    expandTags .usual (cs ++ rest) = cs ++ expandTags .usual rest := by
  induction cs with
  | nil => rfl
  | cons c cs ih =>
      have hnone : behind? ['{', '%'] (c :: (cs ++ rest)) = none := by
        cases hb : behind? ['{', '%'] (c :: (cs ++ rest)) with
        | none => rfl
        | some behind =>
            obtain ⟨rfl, hcs⟩ := List.cons.inj (behind?_eq_some_iff.1 hb)
            cases cs with
            | nil => exact absurd (by rw [← List.nil_append rest, hcs]; rfl) hrest
            | cons d ds =>
                obtain ⟨rfl, -⟩ := List.cons.inj hcs
                exact absurd ⟨[], ds, rfl⟩ h
      rw [List.cons_append, expandTags_cons hnone,
        ih fun hin => h (hin.trans (List.suffix_cons c cs).isInfix), List.cons_append]

theorem head?_source_of_isBlock {s : Segment} (h : s.IsBlock) (rest : List Char) :
    (s.source ++ rest).head? = some '{' := by
  cases s with
  | text cs => exact h.elim
  | tag blanks t => rfl
  | raw b => rfl

/-! ## Rows of segments -/

theorem WellFormed.tail {s : Segment} {segments : List Segment} (h : WellFormed (s :: segments)) :
    WellFormed segments where
  fits := fun t ht => h.fits t (List.mem_cons_of_mem s ht)
  apart := h.apart.tail

/-- Behind a text there is a block or the end. -/
theorem WellFormed.head?_ne {cs rest : List Char} {segments : List Segment}
    (h : WellFormed (.text cs :: segments)) (hrest : rest.head? ≠ some '%') :
    (sourceOf segments ++ rest).head? ≠ some '%' := by
  cases segments with
  | nil => exact hrest
  | cons s segments =>
      have hs : s.IsBlock := (List.isChain_cons_cons.1 h.apart).1.resolve_left id
      rw [sourceOf, List.flatMap_cons, List.append_assoc, head?_source_of_isBlock hs]
      decide

/-- The first reading works on every segment by itself, whatever follows the segments, as long as it
does not go on as an opening delimiter does. -/
theorem expandTags_sourceOf_append {segments : List Segment} (h : WellFormed segments)
    {rest : List Char} (hrest : rest.head? ≠ some '%') :
    expandTags .usual (sourceOf segments ++ rest)
      = segments.flatMap Segment.expanded ++ expandTags .usual rest := by
  induction segments with
  | nil => rfl
  | cons s segments ih =>
      have hs : s.Fits := h.fits s List.mem_cons_self
      have hstep : expandTags .usual (s.source ++ (sourceOf segments ++ rest))
          = s.expanded ++ expandTags .usual (sourceOf segments ++ rest) := by
        cases s with
        | text cs => exact expandTags_text hs (h.head?_ne hrest)
        | tag blanks t => exact expandTags_piece (piece?_source (s := .tag blanks t) trivial hs _)
        | raw b => exact expandTags_piece (piece?_source (s := .raw b) trivial hs _)
      rw [sourceOf, List.flatMap_cons, List.append_assoc]
      exact hstep.trans (by rw [ih h.tail, List.flatMap_cons, List.append_assoc])

/-- What follows segments is read as it would be by itself. -/
theorem expandTags_behind {segments : List Segment} (h : WellFormed segments) {rest : List Char}
    (hrest : rest.head? ≠ some '%') :
    expandTags .usual (sourceOf segments ++ rest)
      = expandTags .usual (sourceOf segments) ++ expandTags .usual rest := by
  have halone : expandTags .usual (sourceOf segments ++ [])
      = segments.flatMap Segment.expanded ++ expandTags .usual [] :=
    expandTags_sourceOf_append h (by simp)
  rw [List.append_nil, expandTags_nil, List.append_nil] at halone
  rw [expandTags_sourceOf_append h hrest, halone]

/-- Reading a template for its tags is reading its segments one by one. -/
theorem expandTags_sourceOf {segments : List Segment} (h : WellFormed segments) :
    expandTags .usual (sourceOf segments) = segments.flatMap Segment.expanded := by
  have hread : expandTags .usual (sourceOf segments ++ [])
      = segments.flatMap Segment.expanded ++ expandTags .usual [] :=
    expandTags_sourceOf_append h (by simp)
  rwa [List.append_nil, expandTags_nil, List.append_nil] at hread

/-- A text that ends with a brace, a tag whose directive holds an opening delimiter and ends with a
sign, a raw block that holds a tag, and a tag without a directive. -/
def nested : List Segment :=
  [ .text "a \x7b".toList, .tag [] ⟨true, " limit: 3 \x7b% 5%".toList, true⟩,
    .raw ⟨⟨false, [' '], [' '], false⟩, "\x7b% tag_cloud %\x7d".toList, ⟨true, [], ['\n'], false⟩⟩,
    .tag [' '] ⟨false, [], false⟩ ]

theorem expandTags_sourceOf_nested :
    WellFormed nested
      ∧ sourceOf nested
          = ("a \x7b\x7b%-tag_cloud limit: 3 \x7b% 5%-%\x7d"
              ++ "\x7b% raw %\x7d\x7b% tag_cloud %\x7d\x7b%-endraw\n%\x7d"
              ++ "\x7b% tag_cloud%\x7d").toList
      ∧ expandTags .usual (sourceOf nested)
          = ("a \x7b\x7b\x7b- tag_cloud(\"limit: 3 \x7b% 5%\") -\x7d\x7d"
              ++ "\x7b% raw %\x7d\x7b% tag_cloud %\x7d\x7b%-endraw\n%\x7d"
              ++ "\x7b\x7b tag_cloud(\"\") \x7d\x7d").toList := by
  have hfits : ∀ s ∈ nested, s.Fits := by
    intro s hs
    simp only [nested, List.mem_cons, List.not_mem_nil, or_false] at hs
    rcases hs with rfl | rfl | rfl | rfl
    · show ¬ ['{', '%'] <:+: "a \x7b".toList
      decide
    · exact ⟨by decide, stops_cons (by decide), by decide, by decide⟩
    · exact ⟨⟨by decide, by decide⟩, ⟨by decide, by decide⟩,
        fun m _ => not_isInfix_of_word (by decide) m⟩
    · exact ⟨by decide, by simp [Stops], by decide, by decide⟩
  have hformed : WellFormed nested := ⟨hfits, by simp [nested, Segment.IsBlock]⟩
  exact ⟨hformed, by decide, (expandTags_sourceOf hformed).trans (by decide)⟩

end TagCloud.Template
