/-!
# Text in a width

A text that is shorter than a width can be padded on its left, on its right, or on both sides. A
number keeps its sign at the front, and a tab stands for as many blanks as lead to the next stop.
A text that is repeated many times is put together from halves.
-/

namespace TagCloud.Text

/-- A text repeated so many times. Twice half of the times makes an even number of them. -/
def repeated (s : String) (n : Nat) : String :=
  if n = 0 then ""
  else
    let half := repeated s (n / 2)
    if n % 2 = 0 then half ++ half else half ++ half ++ s

/-- A text at the left of a width. -/
def leftIn (width : Nat) (fill : Char) (cs : List Char) : List Char :=
  cs ++ List.replicate (width - cs.length) fill

/-- A text at the right of a width. -/
def rightIn (width : Nat) (fill : Char) (cs : List Char) : List Char :=
  List.replicate (width - cs.length) fill ++ cs

/-- A text in the middle of a width. Of two places in the middle it takes the left one in an even
width and the right one in an odd width. -/
def centeredIn (width : Nat) (fill : Char) (cs : List Char) : List Char :=
  let missing := width - cs.length
  let left := missing / 2 + (if missing % 2 = 1 && width % 2 = 1 then 1 else 0)
  List.replicate left fill ++ cs ++ List.replicate (missing - left) fill

/-- A text filled up with zeros behind its sign. -/
def zeroFilled (width : Nat) (cs : List Char) : List Char :=
  match cs with
  | c :: rest =>
    if c = '+' || c = '-' then c :: rightIn (width - 1) '0' rest else rightIn width '0' cs
  | [] => rightIn width '0' []

/-- Expands the tabs of a text, where `column` is the number of characters since the line began. -/
def expandedFrom (size column : Nat) : List Char → List Char
  | [] => []
  | c :: cs =>
    if c = '\t' then
      let blanks := if size = 0 then 0 else size - column % size
      List.replicate blanks ' ' ++ expandedFrom size (column + blanks) cs
    else if c = '\n' || c = '\r' then c :: expandedFrom size 0 cs
    else c :: expandedFrom size (column + 1) cs

/-- A text with a stop for tabs after every so many characters. -/
def expanded (size : Nat) (cs : List Char) : List Char :=
  expandedFrom size 0 cs

end TagCloud.Text
