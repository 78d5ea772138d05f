import TagCloud.Config
import TagCloud.Number.Integer
import TagCloud.Text.Front
import TagCloud.Text.Word

/-!
# Counts, modes and styles

The values of the other four keys begin with what they say and may go on with anything: a count is
the digits at the front, a mode or a style is a keyword at the front, provided that a word ends
where the keyword ends. A mode may be followed by a direction, a style by a separator in braces. A
separator reaches to the last closing brace of the value, so it may hold braces itself.
-/

namespace TagCloud

open TagCloud.Text

/-- What follows `word` at the front of a text in which a word ends there. -/
def afterWord? (word : String) (cs : List Char) : Option (List Char) :=
  match behind? word.toList cs with
  | some rest => if endsWord rest then some rest else none
  | none => none

/-- The meaning of the first of some keywords that stands at the front of a text, and what follows
it. -/
def keyword? {α : Type} (words : List (String × α)) (cs : List Char) : Option (α × List Char) :=
  words.findSome? fun (word, meaning) => (afterWord? word cs).map fun rest => (meaning, rest)

/-- A natural number at the front of a value. -/
def parseCount (value : String) : Except Number.TooManyDigits (Option Nat) :=
  let digits := value.toList.takeWhile isDigit
  if digits.isEmpty then .ok none else (Number.readDigits digits).map some

/-- A mode, and the direction after it if there is one. -/
structure Sorting where
  mode : Mode
  direction : Option Direction
  deriving Repr, DecidableEq

/-- The mode at the front of a value of `sort`. -/
def Sorting.parse (value : String) : Option Sorting := do
  let (mode, rest) ←
    keyword? [("freq", Mode.freq), ("rand", .rand), ("alpha", .alpha)] value.toList
  let direction := keyword? [("asc", Direction.asc), ("desc", .desc)] (trimLeft rest)
  return ⟨mode, direction.map (·.1)⟩

/-- The text before the last occurrence of `mark`. -/
def beforeLast? (mark : Char) : List Char → Option (List Char)
  | [] => none
  | c :: cs =>
    match beforeLast? mark cs with
    | some front => some (c :: front)
    | none => if c = mark then some [] else none

/-- A style, and the separator after it if there is one. -/
structure Styling where
  style : Style
  separator : Option String
  deriving Repr, DecidableEq

/-- The style at the front of a value of `style`. -/
def Styling.parse (value : String) : Option Styling := do
  let (style, rest) ← keyword? [("list", Style.list), ("para", .para)] value.toList
  let separator :=
    match trimLeft rest with
    | '{' :: body => beforeLast? '}' body
    | _ => none
  return ⟨style, separator.map String.ofList⟩

end TagCloud
