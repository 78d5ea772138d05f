import TagCloud.Text.Blank
import TagCloud.Text.Front

/-!
# The delimiters of a template

Tags, printed expressions and comments of a template stand between delimiters, which a host may
choose. Beside the delimiters there may be a sign: a hyphen inside a delimiter asks for the blanks
on the other side of it to be dropped.

Delimiters are any texts, so they may themselves begin with blanks or hyphens, and then there is
more than one way to read what stands before them. The three combinators here try all ways in a
fixed order, the longest first, and take the first one that the rest of the reading goes along with.
-/

namespace TagCloud.Template

open TagCloud.Text

/-- The texts that open and close the parts of a template. -/
structure Delimiters where
  blockStart : List Char
  blockEnd : List Char
  variableStart : List Char
  variableEnd : List Char
  commentStart : List Char
  commentEnd : List Char
  deriving Repr, DecidableEq

/-- The delimiters that are used unless others are chosen. -/
def Delimiters.usual : Delimiters where
  blockStart := ['{', '%']
  blockEnd := ['%', '}']
  variableStart := ['{', '{']
  variableEnd := ['}', '}']
  commentStart := ['{', '#']
  commentEnd := ['#', '}']

/-- How the blanks around the parts of a template are treated: whether a comment and a raw block
take the line end behind them along, whether the first part on a line takes the blanks before it
along, and whether a line end at the end of the template is kept. -/
structure Spacing where
  takesLineEnd : Bool
  takesIndent : Bool
  keepsLastLineEnd : Bool
  deriving Repr, DecidableEq

/-- The blanks are left as they are, but for a line end at the end of the template. -/
def Spacing.usual : Spacing where
  takesLineEnd := false
  takesIndent := false
  keepsLastLineEnd := false

/-- What opens a variable opens nothing else. -/
def Delimiters.areDistinct (d : Delimiters) : Bool :=
  d.blockStart ≠ d.variableStart && d.variableStart ≠ d.commentStart

/-- Reads `word` and goes on with `next`. -/
def after {α : Type} (word : List Char) (next : List Char → Option α) (cs : List Char) : Option α :=
  match behind? word cs with
  | some rest => next rest
  | none => none

/-- Skips blanks and goes on with `next`, skipping as many as the rest allows. -/
def afterBlanks {α : Type} (next : List Char → Option α) : List Char → Option α
  | [] => next []
  | c :: cs =>
    if isBlank c then
      match afterBlanks next cs with
      | some found => some found
      | none => next (c :: cs)
    else next (c :: cs)

/-- Skips a hyphen, if there is one and the rest allows it, and goes on with `next`. -/
def afterHyphen {α : Type} (next : List Char → Option α) (cs : List Char) : Option α :=
  match cs with
  | '-' :: rest =>
    match next rest with
    | some found => some found
    | none => next cs
  | _ => next cs

/-- A result has become shorter than `bound`. -/
def Shortens {α : Type} (size : α → Nat) (bound : Nat) (found : Option α) : Prop :=
  ∀ a, found = some a → size a < bound

theorem shortens_after {α : Type} {size : α → Nat} {bound : Nat} {word : List Char}
    {next : List Char → Option α} {cs : List Char}
    (h : ∀ rest, rest.length + word.length ≤ cs.length → Shortens size bound (next rest)) :
    Shortens size bound (after word next cs) := by
  intro a ha
  unfold after at ha
  split at ha
  · next rest hp =>
      have hlen := length_of_behind? hp
      exact h rest (by omega) a ha
  · simp at ha

theorem shortens_afterBlanks {α : Type} {size : α → Nat} {bound : Nat}
    {next : List Char → Option α} {cs : List Char}
    (h : ∀ rest, rest.length ≤ cs.length → Shortens size bound (next rest)) :
    Shortens size bound (afterBlanks next cs) := by
  induction cs with
  | nil => exact h [] (Nat.le_refl _)
  | cons c cs ih =>
    have ih := ih fun rest hr => h rest (Nat.le_succ_of_le hr)
    intro a ha
    unfold afterBlanks at ha
    split at ha
    · split at ha
      · next found hf => exact ih a (hf.trans ha)
      · exact h (c :: cs) (Nat.le_refl _) a ha
    · exact h (c :: cs) (Nat.le_refl _) a ha

theorem shortens_afterHyphen {α : Type} {size : α → Nat} {bound : Nat}
    {next : List Char → Option α} {cs : List Char}
    (h : ∀ rest, rest.length ≤ cs.length → Shortens size bound (next rest)) :
    Shortens size bound (afterHyphen next cs) := by
  intro a ha
  unfold afterHyphen at ha
  split at ha
  · next rest =>
      split at ha
      · next found hf => exact h rest (by simp) a (hf.trans ha)
      · exact h ('-' :: rest) (Nat.le_refl _) a ha
  · exact h cs (Nat.le_refl _) a ha

end TagCloud.Template
