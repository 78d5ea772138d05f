import TagCloud.Directive.FontSize
import TagCloud.Directive.Fragment
import TagCloud.Directive.Keyword

/-!
# Reading a directive

A directive is read in two steps. The first finds the raw value of each of the five keys; all that
the configuration depends on is in these five values. The second reads each value by the grammar of
its key and settles what was left open: a value that its grammar refuses is as good as none.

Two choices are settled late. Without a direction, clouds ordered by weight run downwards and all
others upwards. And the style has the last word on wrappers and separators: a paragraph has no
wrappers and gets a comma and a blank where no separator was given, a list has its own wrappers and
never a separator.

The only value that is refused aloud is a threshold or a limit of more digits than are read.
-/

namespace TagCloud

/-- The raw values of the keys of a directive. -/
structure RawSettings where
  fontSize : Option String
  threshold : Option String
  limit : Option String
  sort : Option String
  style : Option String
  deriving Repr, DecidableEq

/-- The raw values among the keys and values of a directive. -/
def RawSettings.ofEntries (entries : Dictionary String String) : RawSettings where
  fontSize := entries.get? "font-size"
  threshold := entries.get? "threshold"
  limit := entries.get? "limit"
  sort := entries.get? "sort"
  style := entries.get? "style"

/-- The natural number of a raw value, or the usual one. -/
def countOr (usual : Nat) (raw : Option String) : Except Number.TooManyDigits Nat :=
  match raw with
  | none => .ok usual
  | some value => (parseCount value).map (·.getD usual)

/-- The direction in which a mode runs when none is given. -/
def Mode.usualDirection : Mode → Direction
  | .freq => .desc
  | _ => .asc

/-- The wrappers and the separator of a style, given the separator that was asked for. -/
def Style.wrapping (style : Style) (separator : Option String) : String × String × String :=
  match style with
  | .para => ("", "", separator.getD paraSeparator)
  | _ => (listTagBefore, listTagAfter, "")

/-- The configuration that raw values ask for. -/
def RawSettings.config {R : Type} [Magnitude R] (raw : RawSettings) :
    Except Number.TooManyDigits (Config R) := do
  let size := raw.fontSize.bind FontSize.parse
  let threshold ← countOr 1 raw.threshold
  let limit ← countOr 0 raw.limit
  let sorting := raw.sort.bind Sorting.parse
  let styling := raw.style.bind Styling.parse
  let mode := (sorting.map (·.mode)).getD .alpha
  let style := (styling.map (·.style)).getD .list
  let (before, after, separator) := style.wrapping (styling.bind (·.separator))
  return {
    sizeMin := (size.map fun s => Quantity.real s.least.magnitude).getD (.whole 70)
    sizeMax := (size.map fun s => Quantity.real s.greatest.magnitude).getD (.whole 170)
    precision := (size.map (·.precision)).getD 0
    unit := (size.map (·.unit)).getD .percent
    threshold
    limit
    sort := mode
    order := (sorting.bind (·.direction)).getD mode.usualDirection
    style
    tagBefore := before
    tagAfter := after
    separator }

/-- The configuration that a directive asks for. -/
def Directive.parse {R : Type} [Magnitude R] (directive : String) :
    Except Number.TooManyDigits (Config R) :=
  (RawSettings.ofEntries (Directive.split directive)).config

end TagCloud
