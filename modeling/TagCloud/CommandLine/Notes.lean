import TagCloud.Cloud
import TagCloud.CommandLine.Arguments
import TagCloud.Number.Shortest

/-!
# Notes on a run

A run can be asked to tell what it did: which parts of the directive were ignored, what was made of
the rest, and how many tags were weighed and shown. Each note names the part of the program that it
comes from.
-/

namespace TagCloud.CommandLine

/-- A note of the part that makes clouds. -/
def cloudNote (text : String) : String :=
  "DEBUG tagcloud_core: " ++ text ++ "\n"

/-- A note of the part that reads the command line. -/
def runNote (text : String) : String :=
  "DEBUG tagcloud: " ++ text ++ "\n"

/-- The keys that a directive may have. -/
def knownKeys : List String :=
  ["font-size", "threshold", "limit", "sort", "style"]

/-- A note for each fragment without a colon. -/
def fragmentNotes (directive : String) : List String :=
  ((Directive.trimmedFragments directive).filter fun f => (Directive.entry? f).isNone).map
    fun f => cloudNote ("Ignoring directive fragment without a key: "
      ++ Text.quoted (String.ofList f))

/-- A note on the keys that mean nothing, in the order of their code points. -/
def keyNotes (entries : Dictionary String String) : List String :=
  let unknown := (entries.map (·.1)).filter fun key => !knownKeys.contains key
  if unknown.isEmpty then []
  else
    let sorted := unknown.mergeSort fun a b => !decide (b < a)
    [cloudNote ("Ignoring unknown directive keys: " ++ String.intercalate ", " sorted)]

/-- A note on the value of a key if it is not as the key wants it. -/
def valueNotes (key : String) (fits : String → Bool) (value : Option String) : List String :=
  match value with
  | none => []
  | some v =>
    if fits v then []
    else [cloudNote ("Ignoring malformed " ++ key ++ " value: " ++ Text.quoted v)]

/-- Whether a value begins with a count, of however many digits. -/
def fitsCount (value : String) : Bool :=
  match parseCount value with
  | .ok none => false
  | _ => true

/-- The notes on all that is ignored of a directive. -/
def directiveNotes (directive : String) : List String :=
  let entries := Directive.split directive
  let raw := RawSettings.ofEntries entries
  fragmentNotes directive ++ keyNotes entries
    ++ valueNotes "font-size" (fun v => (FontSize.parse v).isSome) raw.fontSize
    ++ valueNotes "threshold" fitsCount raw.threshold
    ++ valueNotes "limit" fitsCount raw.limit
    ++ valueNotes "sort" (fun v => (Sorting.parse v).isSome) raw.sort
    ++ valueNotes "style" (fun v => (Styling.parse v).isSome) raw.style

/-- A bound of the font sizes as notes show it. -/
def shownSize : Quantity Float → String
  | .whole n => toString n
  | .real x => Number.shortest x

/-- A configuration as notes show it. -/
def shownConfig (c : Config Float) : String :=
  let fields := [
    ("size_min", shownSize c.sizeMin), ("size_max", shownSize c.sizeMax),
    ("precision", toString c.precision), ("unit", Text.quoted c.unit.name),
    ("threshold", toString c.threshold), ("limit", toString c.limit),
    ("sort", Text.quoted c.sort.name), ("order", Text.quoted c.order.name),
    ("style", Text.quoted c.style.name), ("tag_before", Text.quoted c.tagBefore),
    ("tag_after", Text.quoted c.tagAfter), ("separator", Text.quoted c.separator)]
  "CloudConfig(" ++ String.intercalate ", " (fields.map fun (name, v) => name ++ "=" ++ v) ++ ")"

/-- What an option is given as notes show it. -/
def Given.quoted : Given String → String
  | .value s => Text.quoted s
  | .emptyList => "[]"

/-- The note on what was made of a directive. -/
def configNote (directive : Given String) (c : Config Float) : String :=
  runNote ("Parsed directive " ++ directive.quoted ++ " into " ++ shownConfig c)

/-- A note on weights that do not differ, if they are given to any tags. -/
def weightNotes (c : Config Float) (tallies : List Tally) : List String :=
  let kept := qualifying c.threshold tallies
  let logs : Except TooLarge (List Float) := kept.mapM Tally.log
  match logs with
  | .ok (x :: xs) =>
    if Magnitude.less (leastOf x xs) (greatestOf x xs) then []
    else
      [cloudNote ("All " ++ toString kept.length
        ++ " qualifying tags share one count; using weight " ++ Number.shortest Magnitude.half)]
  | _ => []

/-- The note on the labels that are shown. -/
def cloudSizeNote (c : Config Float) (shown : Nat) : String :=
  cloudNote ("Rendering " ++ toString shown ++ " tags (sort=" ++ c.sort.name ++ ", order="
    ++ c.order.name ++ ", limit=" ++ toString c.limit ++ ")")

end TagCloud.CommandLine
