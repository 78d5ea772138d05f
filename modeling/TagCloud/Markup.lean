import TagCloud.Config
import TagCloud.Label
import TagCloud.Text.Lower

/-!
# The markup of a cloud

Each label becomes an anchor on a line of its own. Its font size lies on the scale between the two
sizes of the configuration, at the place that its weight says; its link is the base path and the
name in lower case. The wrappers of the configuration stand around the anchor and its separator
after them, except after the last label.

Names are written as they are. Whoever takes names from elsewhere has to make them safe first.
-/

namespace TagCloud

/-- The sizes from a start over an extent, which may be negative. -/
structure Scale (R : Type) where
  start : Quantity R
  extent : Quantity R

section

variable {R : Type} [Magnitude R]

/-- The scale of the sizes of a configuration. -/
def Config.scale (c : Config R) : Except TooLarge (Scale R) := do
  let extent ← c.sizeMax.sub c.sizeMin
  return ⟨c.sizeMin, extent⟩

/-- The size at a weight. -/
def Scale.at (s : Scale R) (weight : Quantity R) : Except TooLarge (Quantity R) := do
  let part ← s.extent.mul weight
  s.start.add part

/-- The size that a configuration gives to a weight. -/
def Config.sizeAt (c : Config R) (weight : Quantity R) : Except TooLarge (Quantity R) := do
  let s ← c.scale
  s.at weight

/-- The text of the size at a weight. -/
def sizeText (c : Config R) (weight : Quantity R) : Except SizeError String :=
  match c.sizeAt weight with
  | .error _ => .error .tooLarge
  | .ok size => size.written c.precision

end

/-- The link of a tag: the base path without slashes at its end, and the name in lower case. -/
def tagHref (base name : String) : String :=
  String.ofList ((base.toList.reverse.dropWhile (· == '/')).reverse)
    ++ "/" ++ Text.lower name ++ "/"

/-- A label as it is shown: its name and the text of its size. -/
structure Item where
  name : String
  size : String
  deriving Repr, DecidableEq

section

variable {R : Type}

/-- The anchor of an item. -/
def anchor (c : Config R) (base : String) (item : Item) : String :=
  "<a style=\"font-size: " ++ item.size ++ c.unit.name ++ "\" href=\"" ++ tagHref base item.name
    ++ "\">" ++ item.name ++ "</a>"

/-- The lines of some items. -/
def itemLines (c : Config R) (base : String) : List Item → List String
  | [] => []
  | [item] => [c.tagBefore ++ anchor c base item ++ c.tagAfter ++ "\n"]
  | item :: items =>
    (c.tagBefore ++ anchor c base item ++ c.tagAfter ++ c.separator ++ "\n")
      :: itemLines c base items

variable [Magnitude R]

/-- A label as it is shown. -/
def Label.item (c : Config R) (label : Label (Quantity R)) : Except SizeError Item :=
  (sizeText c label.weight).map fun size => ⟨label.name, size⟩

/-- The markup of some labels whose weights may be whole. -/
def renderQuantities (c : Config R) (base : String) (labels : List (Label (Quantity R))) :
    Except SizeError String := do
  let items ← labels.mapM (·.item c)
  return String.join (itemLines c base items)

/-- The markup of some labels. -/
def renderItems (c : Config R) (base : String) (labels : List (Label R)) :
    Except SizeError String :=
  renderQuantities c base (labels.map fun label => ⟨label.name, .real label.weight⟩)

end

end TagCloud
