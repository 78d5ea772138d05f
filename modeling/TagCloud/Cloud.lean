import TagCloud.Directive.Parse
import TagCloud.Markup
import TagCloud.Order
import TagCloud.Tags
import TagCloud.Weight

/-!
# Clouds

A cloud is built by weighing tallies and ordering the labels, and rendered by writing the labels
out. Everything that shows a cloud, the command line, the site and the templates, does it through
the three functions of this module, so that the same directive and the same tags give the same
markup wherever they are met.
-/

namespace TagCloud

variable {R : Type} [Magnitude R]

/-- The labels of a cloud, and what later draws are made from. -/
def buildCloud (c : Config R) (source : Source) (tallies : List Tally) :
    Except CloudError (List (Label R) × Source) :=
  match weigh c.threshold tallies with
  | .error _ => .error .tooLarge
  | .ok labels => sortLabels c source labels

/-- The markup of a cloud, and what later draws are made from. -/
def renderCloud (c : Config R) (base : String) (source : Source) (tallies : List Tally) :
    Except CloudError (String × Source) := do
  let (labels, source) ← buildCloud c source tallies
  let html ← (renderItems c base labels).mapError .size
  return (html, source)

/-- Why a directive and some tags give no cloud. -/
inductive RenderError where
  | directive (e : Number.TooManyDigits)
  | tag (e : UnsupportedTag)
  | cloud (e : CloudError)
  deriving Repr, DecidableEq

/-- The text shown when a directive and some tags give no cloud. -/
def RenderError.message : RenderError → String
  | .directive e => e.message
  | .tag e => e.message
  | .cloud e => e.message

/-- The markup of the cloud that a directive asks for. The directive is read before the tags are
looked at. -/
def renderDirective (directive : String) (tags : Tags) (base : String) (source : Source) :
    Except RenderError (String × Source) := do
  let c : Config Float ← (Directive.parse directive).mapError .directive
  let tallies ← tags.tallies.mapError .tag
  (renderCloud c base source tallies).mapError .cloud

end TagCloud
