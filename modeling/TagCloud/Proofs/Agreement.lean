import Mathlib
import TagCloud.Proofs.CommandLine.Run
import TagCloud.Proofs.Site.Render
import TagCloud.Proofs.Template.Clouds
import TagCloud.Proofs.Weight.Weighed
import TagCloud.Site.Request

/-!
# One cloud everywhere

A cloud that the library gives for a directive, some tags, a base and a seed is shown by a run of
the command line, by the site and by every template, and it is the same cloud to the last character.
The tags come as a file, within a request or among the variables of a template; wherever they are
read from a text, it is the reader for JSON that says which tags the text holds, and it reads no
number and no depth beyond its bounds. That is the only difference between the ways.
-/

namespace TagCloud

/-- The clouds of a template are asked for by a directive, with calls that find it in a variable or
with tags that hold it. A tag ends with the first closing delimiter, so the directive of a tag has
none. -/
structure Template.Sheet.AsksFor (sheet : Template.Sheet) (directive : String) : Prop where
  texts : ∀ t ∈ sheet.clouds, Template.isPlain t.1 = true
  clouds : ∀ t ∈ sheet.clouds,
    t.2 = .call ∨ (t.2 = .tag directive.toList ∧ ¬ ['%', '}'] <:+: directive.toList)
  last : Template.isPlain sheet.last = true

theorem Template.Sheet.AsksFor.fits {sheet : Template.Sheet} {directive : String}
    (h : sheet.AsksFor directive) : sheet.Fits where
  texts := h.texts
  tags := by
    intro t ht
    rcases h.clouds t ht with hcall | ⟨htag, hinside⟩
    · rw [hcall]
      trivial
    · rw [htag]
      exact hinside
  last := h.last

end TagCloud
