import TagCloud.Proofs.Template.Row
import TagCloud.Template.Node

/-!
# Templates of texts and clouds

A sheet is a template that consists of texts and of clouds, which are asked for in either way. Read
as any template is, it comes apart into its texts and one printed call for each cloud. The texts
must not open anything themselves, and then it does not matter what they hold; line ends are unified
in them and nowhere else, because a call holds none.
-/

namespace TagCloud.Template

open TagCloud.Text

/-- A character that opens nothing behind a brace. -/
def isQuiet (c : Char) : Bool :=
  c ≠ '{' && c ≠ '%' && c ≠ '#'

/-- A text in which nothing opens, whatever follows it. -/
def isPlain : List Char → Bool
  | [] => true
  | c :: cs => (c ≠ '{' || cs.head?.any isQuiet) && isPlain cs

/-- A template of texts and clouds: the texts with the cloud behind each, and the last text. -/
structure Sheet where
  clouds : List (List Char × Asked)
  last : List Char

namespace Sheet

/-- The source of the template. -/
def source (s : Sheet) : List Char :=
  s.clouds.flatMap (fun (text, a) => text ++ a.source) ++ s.last

/-- The texts are plain, and each tag ends where it is to end. -/
structure Fits (s : Sheet) : Prop where
  texts : ∀ t ∈ s.clouds, isPlain t.1 = true
  tags : ∀ t ∈ s.clouds, t.2.Fits
  last : isPlain s.last = true

/-- The last text as it is rendered. -/
def ending (spacing : Spacing) (s : Sheet) : List Char :=
  if spacing.keepsLastLineEnd then unifyNewlines s.last else dropLastNewline (unifyNewlines s.last)

/-- The parts of the template. -/
def parts (spacing : Spacing) (s : Sheet) : List Node :=
  s.clouds.flatMap (fun (text, a) => [.text (unifyNewlines text), .print a.expression])
    ++ [.text (s.ending spacing)]

end Sheet

/-! ## Plain texts -/

namespace Sheet

variable {s : Sheet}

end Sheet

end TagCloud.Template
