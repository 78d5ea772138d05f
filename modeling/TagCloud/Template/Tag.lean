import TagCloud.Json.Literal
import TagCloud.Template.Delimiters
import TagCloud.Text.Word

/-!
# Tags in a template

A template asks for a cloud with a tag that holds a directive as it would be typed elsewhere. The
language of templates has no such tag, and reading the directive as an expression would spoil it: a
size of `0.80` would come out as `0.8` and ask for one decimal place. So tags are found in the
source of the template, before anything else reads it, and each is replaced by a printed call that
hands the directive on as a string.

The source is gone through from the left. Where a raw block stands it is passed over as a whole,
because what it holds is text; where a tag stands it is replaced; everything else is copied. A tag
ends at the first closing delimiter, whatever the directive means by it.
-/

namespace TagCloud.Template

open TagCloud.Text

/-- A tag: whether the text on either side is to be trimmed, and all that stands between its name
and its end. -/
structure Tag where
  trimsLeft : Bool
  body : List Char
  trimsRight : Bool
  deriving Repr, DecidableEq

/-- The name of the tag, which is also the name of the function that is called in its place. -/
def tagWord : List Char := ['t', 'a', 'g', '_', 'c', 'l', 'o', 'u', 'd']

/-- The word that opens a raw block. -/
def rawWord : List Char := ['r', 'a', 'w']

/-- The word that closes a raw block. -/
def endrawWord : List Char := ['e', 'n', 'd', 'r', 'a', 'w']

/-- Reads a marker of a raw block, blanks and hyphens around its word, and goes on with `next`. -/
def rawMarker {α : Type} (d : Delimiters) (word : List Char) (next : List Char → Option α) :
    List Char → Option α :=
  after d.blockStart <| afterHyphen <| afterBlanks <| after word <| afterBlanks <| afterHyphen <|
    after d.blockEnd next

/-- The first success of `p` on a text or on what remains of it further to the right. -/
def firstPlace {α : Type} (p : List Char → Option α) : List Char → Option α
  | [] => p []
  | c :: cs =>
    match p (c :: cs) with
    | some found => some found
    | none => firstPlace p cs

/-- What follows the raw block at the front of a text. -/
def behindRaw? (d : Delimiters) : List Char → Option (List Char) :=
  rawMarker d rawWord (firstPlace (rawMarker d endrawWord some))

/-- The end of a tag at the front of a text: whether a hyphen stands before the delimiter, and what
follows. -/
def tagEnd? (d : Delimiters) (cs : List Char) : Option (Bool × List Char) :=
  let plain := (behind? d.blockEnd cs).map fun rest => (false, rest)
  match cs with
  | '-' :: more =>
    match behind? d.blockEnd more with
    | some rest => some (true, rest)
    | none => plain
  | _ => plain

/-- The text up to the first end of a tag, that end, and what follows. -/
def untilTagEnd? (d : Delimiters) : List Char → Option (List Char × Bool × List Char)
  | [] => (tagEnd? d []).map fun (trims, rest) => ([], trims, rest)
  | c :: cs =>
    match tagEnd? d (c :: cs) with
    | some (trims, rest) => some ([], trims, rest)
    | none => (untilTagEnd? d cs).map fun (body, trims, rest) => (c :: body, trims, rest)

/-- What follows the opening delimiter and the sign of a tag. -/
def tagRest? (d : Delimiters) (trimsLeft : Bool) : List Char → Option (Tag × List Char) :=
  afterBlanks <| after tagWord fun cs =>
    if endsWord cs then
      (untilTagEnd? d cs).map fun (body, trimsRight, rest) => (⟨trimsLeft, body, trimsRight⟩, rest)
    else none

/-- The tag at the front of a text, and what follows it. -/
def tag? (d : Delimiters) : List Char → Option (Tag × List Char) :=
  after d.blockStart fun cs =>
    match cs with
    | '-' :: more =>
      match tagRest? d true more with
      | some found => some found
      | none => tagRest? d false cs
    | _ => tagRest? d false cs

/-- The hyphen that asks for trimming. -/
def hyphen (trims : Bool) : List Char :=
  if trims then ['-'] else []

/-- The printed call that takes the place of a tag. -/
def Tag.call (d : Delimiters) (t : Tag) : List Char :=
  d.variableStart ++ hyphen t.trimsLeft ++ ' ' :: tagWord ++ '(' :: Json.literal (trim t.body)
    ++ ')' :: ' ' :: hyphen t.trimsRight ++ d.variableEnd

/-- The raw block or the tag at the front of a text, as it is written out, and what follows it. -/
def piece? (d : Delimiters) (cs : List Char) : Option (List Char × List Char) :=
  match behindRaw? d cs with
  | some rest => some (cs.take (cs.length - rest.length), rest)
  | none => (tag? d cs).map fun (t, rest) => (t.call d, rest)

/-! ## Every piece takes something off the text

The word of a marker or a tag is not empty, so what follows a piece is shorter than what the piece
was found in, whatever the delimiters are. -/

theorem shortens_rawMarker {α : Type} {d : Delimiters} {word cs : List Char}
    {next : List Char → Option α} {size : α → Nat} {bound : Nat} (hword : 0 < word.length)
    (hle : cs.length ≤ bound)
    (h : ∀ rest, rest.length < bound → Shortens size bound (next rest)) :
    Shortens size bound (rawMarker d word next cs) := by
  unfold rawMarker
  refine shortens_after fun cs₁ h₁ => ?_
  refine shortens_afterHyphen fun cs₂ h₂ => ?_
  refine shortens_afterBlanks fun cs₃ h₃ => ?_
  refine shortens_after fun cs₄ h₄ => ?_
  refine shortens_afterBlanks fun cs₅ h₅ => ?_
  refine shortens_afterHyphen fun cs₆ h₆ => ?_
  exact shortens_after fun cs₇ h₇ => h cs₇ (by omega)

theorem shortens_firstPlace {α : Type} {p : List Char → Option α} {size : α → Nat} {bound : Nat}
    {cs : List Char} (h : ∀ rest, rest.length ≤ cs.length → Shortens size bound (p rest)) :
    Shortens size bound (firstPlace p cs) := by
  induction cs with
  | nil => exact h [] (Nat.le_refl _)
  | cons c cs ih =>
    intro a ha
    unfold firstPlace at ha
    split at ha
    · next found hf => exact h (c :: cs) (Nat.le_refl _) a (hf.trans ha)
    · exact ih (fun rest hr => h rest (Nat.le_succ_of_le hr)) a ha

theorem length_behindRaw?_lt {d : Delimiters} {cs rest : List Char}
    (h : behindRaw? d cs = some rest) : rest.length < cs.length := by
  refine shortens_rawMarker (by decide) (Nat.le_refl _) ?_ rest h
  intro cs₁ h₁
  refine shortens_firstPlace fun cs₂ h₂ => ?_
  refine shortens_rawMarker (by decide) (by omega) fun cs₃ h₃ a ha => ?_
  simp_all

theorem length_tagEnd?_le {d : Delimiters} {cs rest : List Char} {trims : Bool}
    (h : tagEnd? d cs = some (trims, rest)) : rest.length ≤ cs.length := by
  unfold tagEnd? at h
  split at h
  · split at h
    · next more _ hb =>
        have := length_of_behind? hb
        simp_all
        omega
    · next more _ =>
        simp only [Option.map_eq_some_iff, Prod.mk.injEq] at h
        obtain ⟨r, hr, _, rfl⟩ := h
        have := length_of_behind? hr
        omega
  · simp only [Option.map_eq_some_iff, Prod.mk.injEq] at h
    obtain ⟨r, hr, _, rfl⟩ := h
    have := length_of_behind? hr
    omega

theorem length_untilTagEnd?_le {d : Delimiters} {cs body rest : List Char} {trims : Bool}
    (h : untilTagEnd? d cs = some (body, trims, rest)) : rest.length ≤ cs.length := by
  induction cs generalizing body with
  | nil =>
    simp only [untilTagEnd?, Option.map_eq_some_iff, Prod.mk.injEq] at h
    obtain ⟨⟨t, r⟩, hr, _, _, rfl⟩ := h
    exact length_tagEnd?_le hr
  | cons c cs ih =>
    unfold untilTagEnd? at h
    split at h
    · next t r hr =>
        simp only [Option.some.injEq, Prod.mk.injEq] at h
        exact h.2.2 ▸ length_tagEnd?_le hr
    · simp only [Option.map_eq_some_iff, Prod.mk.injEq] at h
      obtain ⟨⟨b, t, r⟩, hr, _, rfl, rfl⟩ := h
      exact Nat.le_succ_of_le (ih hr)

theorem shortens_tagRest? {d : Delimiters} {trimsLeft : Bool} {cs : List Char} {bound : Nat}
    (hle : cs.length ≤ bound) :
    Shortens (fun found => found.2.length) bound (tagRest? d trimsLeft cs) := by
  unfold tagRest?
  refine shortens_afterBlanks fun cs₁ h₁ => ?_
  refine shortens_after fun cs₂ h₂ a ha => ?_
  split at ha
  · simp only [Option.map_eq_some_iff] at ha
    obtain ⟨⟨b, t, r⟩, hr, rfl⟩ := ha
    have hle := length_untilTagEnd?_le hr
    have hpos : 0 < tagWord.length := by decide
    simp only
    omega
  · simp at ha

theorem length_tag?_lt {d : Delimiters} {cs rest : List Char} {t : Tag}
    (h : tag? d cs = some (t, rest)) : rest.length < cs.length := by
  have hshort : Shortens (fun found => found.2.length) cs.length (tag? d cs) := by
    refine shortens_after fun cs₁ h₁ a ha => ?_
    have hle : cs₁.length ≤ cs.length := by omega
    split at ha
    · next more =>
        split at ha
        · next found hf =>
            have hmore : more.length ≤ cs.length := by
              simp only [List.length_cons] at hle
              omega
            exact shortens_tagRest? hmore a (hf.trans ha)
        · exact shortens_tagRest? hle a ha
    · exact shortens_tagRest? hle a ha
  exact hshort (t, rest) h

theorem length_piece?_lt {d : Delimiters} {cs written rest : List Char}
    (h : piece? d cs = some (written, rest)) : rest.length < cs.length := by
  unfold piece? at h
  split at h
  · next r hr =>
      simp only [Option.some.injEq, Prod.mk.injEq] at h
      exact h.2 ▸ length_behindRaw?_lt hr
  · simp only [Option.map_eq_some_iff, Prod.mk.injEq] at h
    obtain ⟨⟨t, r⟩, hr, _, rfl⟩ := h
    exact length_tag?_lt hr

/-- The source of a template with a call in the place of every tag. -/
def expandTags (d : Delimiters) (cs : List Char) : List Char :=
  match _ : piece? d cs with
  | some (written, rest) => written ++ expandTags d rest
  | none =>
    match cs with
    | [] => []
    | c :: cs => c :: expandTags d cs
termination_by cs.length
decreasing_by
  · next h => exact length_piece?_lt h
  · simp

end TagCloud.Template
