import TagCloud.Config
import TagCloud.Text.Blank
import TagCloud.Text.Digit

/-!
# Font sizes

The value of `font-size` holds two numerals with a dash between them and a unit after the second.
They are looked for from the left and may stand anywhere in the value, with one proviso: the first
numeral must not begin in the middle of a row of digits and points, so that no part of a longer
number is ever taken for a number. What follows the unit is not looked at.

A numeral is read as far as it goes. Stopping short of its end could never help: what must follow a
numeral, blanks and a dash or blanks and a unit, is neither a digit nor a point.
-/

namespace TagCloud

open TagCloud.Text

/-- A numeral as it is written: the digits before its point and those after it. At least one of
the two rows has digits, and a point is written only before digits. -/
structure Numeral where
  whole : List Char
  fraction : List Char
  deriving Repr, DecidableEq

namespace Numeral

/-- The numeral at the front of a text, and what follows it. -/
def read? (cs : List Char) : Option (Numeral × List Char) :=
  let whole := cs.takeWhile isDigit
  let rest := cs.dropWhile isDigit
  let fraction :=
    match rest with
    | '.' :: more => more.takeWhile isDigit
    | _ => []
  if fraction.isEmpty then
    if whole.isEmpty then none else some (⟨whole, []⟩, rest)
  else some (⟨whole, fraction⟩, (rest.drop 1).dropWhile isDigit)

/-- How many decimal places a numeral has. -/
def places (n : Numeral) : Nat :=
  n.fraction.length

/-- The number that the digits of a numeral denote when its point is left out. -/
def mantissa (n : Numeral) : Nat :=
  number (n.whole ++ n.fraction)

/-- The magnitude that a numeral denotes. -/
def magnitude {R : Type} [Magnitude R] (n : Numeral) : R :=
  Magnitude.ofFraction n.mantissa (Nat.pow 10 n.places)

end Numeral

/-- The unit at the front of a text. -/
def SizeUnit.read? : List Char → Option SizeUnit
  | '%' :: _ => some .percent
  | 'e' :: 'm' :: _ => some .em
  | 'p' :: 'x' :: _ => some .px
  | _ => none

/-- The two bounds of a font size and their unit. -/
structure FontSize where
  least : Numeral
  greatest : Numeral
  unit : SizeUnit
  deriving Repr, DecidableEq

namespace FontSize

/-- The font size at the front of a text. -/
def read? (cs : List Char) : Option FontSize := do
  let (least, rest) ← Numeral.read? cs
  match trimLeft rest with
  | '-' :: rest =>
    let (greatest, rest) ← Numeral.read? (trimLeft rest)
    let unit ← SizeUnit.read? (trimLeft rest)
    return ⟨least, greatest, unit⟩
  | _ => none

/-- The first font size in a text. `inNumber` says that the character before the text is a digit or
a point, where no numeral begins. -/
def find? (inNumber : Bool) : List Char → Option FontSize
  | [] => none
  | c :: cs =>
    match if inNumber then none else read? (c :: cs) with
    | some size => some size
    | none => find? (isDigit c || c == '.') cs

/-- The font size that a value of `font-size` holds. -/
def parse (value : String) : Option FontSize :=
  find? false value.toList

/-- The decimal places of the sizes between two bounds: as many as the longer of them has. -/
def precision (size : FontSize) : Nat :=
  max size.least.places size.greatest.places

end FontSize

end TagCloud
