import TagCloud.Proofs.Cloud
import TagCloud.Proofs.Site.Status

/-!
# The status of the index page

The index page is meant to be there whatever the project's own tag file holds, and where nothing can
be read from the file it shows an empty cloud. But only reading the file is looked after. Tags that
have been read and cannot be counted, tags whose cloud cannot be shown and a directive that cannot
be read are failures, and so is a file that cannot be opened or is too deep. The page is shown
exactly when none of that is met.
-/

namespace TagCloud.Site

variable {fresh : Generator} {tree : File.Tree} {base l : File.Location} {path directive : String}
  {members : List (String × Json.Value)} {tags : Tags}

/-- The steps that lead to the index page. -/
def indexSteps (fresh : Generator) (tree : File.Tree) (base : File.Location) (directive : String) :
    Except Failure String := do
  let tags ← indexTags tree base
  let c : Config Float ← (Directive.parse directive).mapError fun e => .render (.directive e)
  let (cloud, _) ← (renderDirective directive tags usualTagDir (.generator fresh)).mapError .render
  return indexPage directive c.style cloud

theorem showIndex_eq (fresh : Generator) (tree : File.Tree) (base : File.Location)
    (typed : Option String) :
    showIndex fresh tree base typed
      = match indexSteps fresh tree base (typed.getD usualDirective) with
        | .ok html => .page html
        | .error f => .trouble (.failed f) :=
  rfl

theorem indexSteps_eq_ok {html : String} :
    indexSteps fresh tree base directive = .ok html
      ↔ ∃ (tags : Tags) (c : Config Float) (cloud : String) (later : Source),
          indexTags tree base = .ok tags ∧ Directive.parse directive = .ok c
            ∧ renderDirective directive tags usualTagDir (.generator fresh) = .ok (cloud, later)
            ∧ indexPage directive c.style cloud = html := by
  unfold indexSteps
  simp only [bind_eq_ok, mapError_eq_ok, pure_eq_ok, Prod.exists]
  constructor
  · rintro ⟨tags, htags, c, hc, cloud, later, hcloud, hpage⟩
    exact ⟨tags, c, cloud, later, htags, hc, hcloud, hpage⟩
  · rintro ⟨tags, c, cloud, later, htags, hc, hcloud, hpage⟩
    exact ⟨tags, htags, c, hc, cloud, later, hcloud, hpage⟩

/-- The site of a project with a tag file. -/
def siteHolding (content : String) : Site where
  base := ["site"]
  tree := {
    entries := [(["site"], .directory), (["site", "data"], .directory),
      (["site", "data", "tags.json"], .file (Text.encodeUtf8 content))]
    here := [] }

end TagCloud.Site
