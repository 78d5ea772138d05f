import TagCloud.Markup
import TagCloud.Proofs.Text.Span

/-!
# Scanning markup for anchors

A reader of a cloud sees markup, not labels. The scanner of this module goes through a markup from
the left, takes every anchor off that it meets and keeps the characters between the anchors. It
knows how an anchor is written and nothing else: not the wrappers, not the separator, not how many
anchors there are.

It has to find its place again behind each anchor whatever stands there, and two facts are all that
it takes. An anchor begins with a sign that names, links and separators are free of, so nothing
begins in the middle of one; and the wrappers of a list, which are not free of it, do not go on like
an anchor.
-/

namespace TagCloud

open TagCloud.Text

/-- What an anchor shows: the text of its size with the unit, its link, and its name. -/
structure Anchor where
  size : List Char
  href : List Char
  name : List Char
  deriving Repr, DecidableEq

/-- A part of a markup: an anchor, or a character outside of all anchors. -/
inductive Piece where
  | anchor (a : Anchor)
  | plain (c : Char)
  deriving Repr, DecidableEq

/-- The anchor that a part of a markup is. -/
def Piece.anchor? : Piece → Option Anchor
  | .anchor a => some a
  | .plain _ => none

namespace Markup

/-- How an anchor begins. -/
def opening : List Char := "<a style=\"font-size: ".toList

/-- What stands between the size and the link of an anchor. -/
def middle : List Char := "\" href=\"".toList

/-- What stands between the link and the name of an anchor. -/
def closing : List Char := "\">".toList

/-- How an anchor ends. -/
def ending : List Char := "</a>".toList

/-- The anchor at the front of a text, and what follows it. The size and the link go up to a quote,
the name up to a sign that begins a tag. -/
def anchor? (cs : List Char) : Option (Anchor × List Char) := do
  let cs ← behind? opening cs
  let size := cs.takeWhile (· ≠ '"')
  let cs ← behind? middle (cs.dropWhile (· ≠ '"'))
  let href := cs.takeWhile (· ≠ '"')
  let cs ← behind? closing (cs.dropWhile (· ≠ '"'))
  let name := cs.takeWhile (· ≠ '<')
  let cs ← behind? ending (cs.dropWhile (· ≠ '<'))
  return (⟨size, href, name⟩, cs)

theorem length_anchor?_lt {cs rest : List Char} {a : Anchor} (h : anchor? cs = some (a, rest)) :
    rest.length < cs.length := by
  simp only [anchor?, Option.bind_eq_bind, Option.bind_eq_some_iff, Option.pure_def,
    Option.some.injEq, Prod.mk.injEq] at h
  obtain ⟨cs₁, h₁, cs₂, h₂, cs₃, h₃, cs₄, h₄, -, rfl⟩ := h
  have hl₁ := length_of_behind? h₁
  have hl₂ := length_of_behind? h₂
  have hl₃ := length_of_behind? h₃
  have hl₄ := length_of_behind? h₄
  have hd₁ := (List.dropWhile_suffix (l := cs₁) (· ≠ '"')).length_le
  have hd₂ := (List.dropWhile_suffix (l := cs₂) (· ≠ '"')).length_le
  have hd₃ := (List.dropWhile_suffix (l := cs₃) (· ≠ '<')).length_le
  have hopening : 0 < opening.length := by decide
  omega

/-- The parts of a markup, from left to right. -/
def scan (cs : List Char) : List Piece :=
  match _ : anchor? cs with
  | some (a, rest) => .anchor a :: scan rest
  | none =>
    match cs with
    | [] => []
    | c :: cs => .plain c :: scan cs
termination_by cs.length
decreasing_by
  · next h => exact length_anchor?_lt h
  · simp

/-- The anchors of a markup. -/
def anchors (cs : List Char) : List Anchor :=
  (scan cs).filterMap Piece.anchor?

/-- An anchor as it is written. -/
def written (a : Anchor) : List Char :=
  opening ++ (a.size ++ (middle ++ (a.href ++ (closing ++ (a.name ++ ending)))))

theorem written_mk (size href name : List Char) :
    written ⟨size, href, name⟩
      = opening ++ (size ++ (middle ++ (href ++ (closing ++ (name ++ ending))))) :=
  rfl

/-- An anchor whose parts end where they are cut: no quote in its size and its link, and no sign
that begins a tag in its name. -/
structure Legible (a : Anchor) : Prop where
  size : '"' ∉ a.size
  href : '"' ∉ a.href
  name : '<' ∉ a.name

theorem legible_mk {size href name : List Char} (hsize : '"' ∉ size) (hhref : '"' ∉ href)
    (hname : '<' ∉ name) : Legible ⟨size, href, name⟩ :=
  ⟨hsize, hhref, hname⟩

theorem anchor?_written {a : Anchor} (ha : Legible a) (rest : List Char) :
    anchor? (written a ++ rest) = some (a, rest) := by
  have hne : ∀ {c : Char} {cs : List Char}, c ∉ cs →
      ∀ x ∈ cs, (decide (x ≠ c)) = true := by
    intro c cs hc x hx
    exact decide_eq_true fun h => hc (h ▸ hx)
  have hmiddle : ∀ cs, Stops (fun x => decide (x ≠ '"')) (middle ++ cs) :=
    fun _ => stops_cons (by decide)
  have hclosing : ∀ cs, Stops (fun x => decide (x ≠ '"')) (closing ++ cs) :=
    fun _ => stops_cons (by decide)
  have hending : ∀ cs, Stops (fun x => decide (x ≠ '<')) (ending ++ cs) :=
    fun _ => stops_cons (by decide)
  simp only [anchor?, written, List.append_assoc, behind?_append, Option.bind_eq_bind,
    Option.bind_some, takeWhile_append_stop (hne ha.size) (hmiddle _),
    dropWhile_append_stop (hne ha.size) (hmiddle _),
    takeWhile_append_stop (hne ha.href) (hclosing _),
    dropWhile_append_stop (hne ha.href) (hclosing _),
    takeWhile_append_stop (hne ha.name) (hending _),
    dropWhile_append_stop (hne ha.name) (hending _), Option.pure_def]

theorem scan_nil : scan [] = [] := by
  rw [scan]
  rfl

theorem scan_written {a : Anchor} (ha : Legible a) (rest : List Char) :
    scan (written a ++ rest) = .anchor a :: scan rest := by
  rw [scan]
  split
  · next found behind h =>
      rw [anchor?_written ha, Option.some.injEq, Prod.mk.injEq] at h
      rw [h.1, h.2]
  · next h => rw [anchor?_written ha] at h; exact absurd h (by simp)

theorem scan_cons_of_none {c : Char} {cs : List Char} (h : anchor? (c :: cs) = none) :
    scan (c :: cs) = .plain c :: scan cs := by
  rw [scan]
  split
  · next h' => rw [h] at h'; exact absurd h' (by simp)
  · rfl

theorem opening_eq : opening = '<' :: 'a' :: opening.drop 2 := by
  decide

theorem anchor?_cons_of_ne {c : Char} (hc : c ≠ '<') (cs : List Char) :
    anchor? (c :: cs) = none := by
  have h : behind? opening (c :: cs) = none := by
    rw [opening_eq, behind?, if_neg (Ne.symm hc)]
  rw [anchor?, h]
  rfl

theorem anchor?_cons_cons_of_ne {c : Char} (hc : c ≠ 'a') (cs : List Char) :
    anchor? ('<' :: c :: cs) = none := by
  have h : behind? opening ('<' :: c :: cs) = none := by
    rw [opening_eq, behind?, if_pos rfl, behind?, if_neg (Ne.symm hc)]
  rw [anchor?, h]
  rfl

/-- A text without a sign that begins a tag is passed over. -/
theorem scan_append_of_plain {cs : List Char} (h : '<' ∉ cs) (rest : List Char) :
    scan (cs ++ rest) = cs.map .plain ++ scan rest := by
  induction cs with
  | nil => rfl
  | cons c cs ih =>
      rw [List.mem_cons, not_or] at h
      rw [List.cons_append, scan_cons_of_none (anchor?_cons_of_ne (Ne.symm h.1) _), ih h.2]
      rfl

/-- A tag whose name does not go on like an anchor is passed over. -/
theorem scan_append_of_tag {c : Char} {cs : List Char} (hc : c ≠ 'a') (hlt : c ≠ '<')
    (h : '<' ∉ cs) (rest : List Char) :
    scan ('<' :: c :: cs ++ rest) = ('<' :: c :: cs).map .plain ++ scan rest := by
  have hcs : '<' ∉ c :: cs := by
    rw [List.mem_cons, not_or]
    exact ⟨Ne.symm hlt, h⟩
  rw [List.cons_append, List.cons_append, scan_cons_of_none (anchor?_cons_cons_of_ne hc _),
    ← List.cons_append, scan_append_of_plain hcs]
  rfl

end Markup

end TagCloud
