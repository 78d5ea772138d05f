import TagCloud.Quantity

/-!
# Configurations

A configuration holds all that is decided about a cloud before its tags are seen. A directive can
only name the units, modes, directions and styles of its own language; a configuration that is
built directly may hold any names, and a name that is not known has the effect of the usual choice
wherever it is looked at.

The three numbers of a configuration are natural. A draft is a configuration whose numbers have not
been looked at; checking it is the only way from one to the other.
-/

namespace TagCloud

/-- What a font size is counted in. -/
inductive SizeUnit where
  | percent
  | em
  | px
  | other (name : String)
  deriving Repr, DecidableEq

/-- A unit as it is written after a size. -/
def SizeUnit.name : SizeUnit → String
  | .percent => "%"
  | .em => "em"
  | .px => "px"
  | .other name => name

/-- The unit of a name. -/
def SizeUnit.ofName (name : String) : SizeUnit :=
  if name = "%" then .percent
  else if name = "em" then .em
  else if name = "px" then .px
  else .other name

/-- How the labels of a cloud are ordered: by name, by weight or at random. -/
inductive Mode where
  | alpha
  | freq
  | rand
  | other (name : String)
  deriving Repr, DecidableEq

/-- A mode as it is written. -/
def Mode.name : Mode → String
  | .alpha => "alpha"
  | .freq => "freq"
  | .rand => "rand"
  | .other name => name

/-- The mode of a name. -/
def Mode.ofName (name : String) : Mode :=
  if name = "alpha" then .alpha
  else if name = "freq" then .freq
  else if name = "rand" then .rand
  else .other name

/-- Which way the labels are ordered. -/
inductive Direction where
  | asc
  | desc
  | other (name : String)
  deriving Repr, DecidableEq

/-- A direction as it is written. -/
def Direction.name : Direction → String
  | .asc => "asc"
  | .desc => "desc"
  | .other name => name

/-- The direction of a name. -/
def Direction.ofName (name : String) : Direction :=
  if name = "asc" then .asc
  else if name = "desc" then .desc
  else .other name

/-- Whether a cloud is a list of items or a paragraph of links. -/
inductive Style where
  | list
  | para
  | other (name : String)
  deriving Repr, DecidableEq

/-- A style as it is written. -/
def Style.name : Style → String
  | .list => "list"
  | .para => "para"
  | .other name => name

/-- The style of a name. -/
def Style.ofName (name : String) : Style :=
  if name = "list" then .list
  else if name = "para" then .para
  else .other name

/-- The numbers, names and texts of a configuration, the numbers not yet looked at. -/
structure Draft (R : Type) where
  sizeMin : Quantity R
  sizeMax : Quantity R
  precision : Int
  unit : SizeUnit
  threshold : Int
  limit : Int
  sort : Mode
  order : Direction
  style : Style
  tagBefore : String
  tagAfter : String
  separator : String

/-- All that is decided about a cloud before its tags are seen. A limit of zero is no limit. -/
structure Config (R : Type) where
  sizeMin : Quantity R
  sizeMax : Quantity R
  precision : Nat
  unit : SizeUnit
  threshold : Nat
  limit : Nat
  sort : Mode
  order : Direction
  style : Style
  tagBefore : String
  tagAfter : String
  separator : String

/-- What stands before an item of a list. -/
def listTagBefore : String := "<li>"

/-- What stands after an item of a list. -/
def listTagAfter : String := "</li>"

/-- What stands between the links of a paragraph when nothing else is asked for. -/
def paraSeparator : String := ", "

/-- The draft in which nothing is asked for. -/
def Draft.initial (R : Type) : Draft R where
  sizeMin := .whole 70
  sizeMax := .whole 170
  precision := 0
  unit := .percent
  threshold := 1
  limit := 0
  sort := .alpha
  order := .asc
  style := .list
  tagBefore := listTagBefore
  tagAfter := listTagAfter
  separator := ""

/-- A number of a configuration is below zero. -/
structure NegativeSetting where
  setting : String
  value : Int
  deriving Repr, DecidableEq

/-- The text shown for a number below zero. -/
def NegativeSetting.message (e : NegativeSetting) : String :=
  e.setting ++ " must be non-negative, got " ++ toString e.value

/-- A number of a configuration that is not below zero. -/
def natural (setting : String) (value : Int) : Except NegativeSetting Nat :=
  if value < 0 then .error ⟨setting, value⟩ else .ok value.toNat

/-- The configuration of a draft. The precision is looked at first, then the threshold, then the
limit. -/
def Draft.check {R : Type} (d : Draft R) : Except NegativeSetting (Config R) := do
  let precision ← natural "precision" d.precision
  let threshold ← natural "threshold" d.threshold
  let limit ← natural "limit" d.limit
  return {
    sizeMin := d.sizeMin
    sizeMax := d.sizeMax
    precision
    unit := d.unit
    threshold
    limit
    sort := d.sort
    order := d.order
    style := d.style
    tagBefore := d.tagBefore
    tagAfter := d.tagAfter
    separator := d.separator }

end TagCloud
