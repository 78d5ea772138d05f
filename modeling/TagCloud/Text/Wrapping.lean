import TagCloud.Text.Numeric
import TagCloud.Text.Occurrence

/-!
# Wrapping lines

A line that is too long is broken into several. It may be broken at blanks, which are dropped where
a line ends or begins, and behind the hyphens of compound words and around dashes; a piece that is
too long for a line of its own may be broken anywhere.
-/

namespace TagCloud.Text

/-- How lines are to be wrapped: their width, whether what is left of it can be counted out, and
where a line may be broken: within words, between the parts of compounds, and behind the hyphen of a
word that is broken anyway. -/
structure Wrapping where
  width : Nat
  isCounted : Bool
  breaksWords : Bool
  breaksCompounds : Bool
  breaksBehindHyphens : Bool
  deriving Repr, DecidableEq

namespace Wrapping

/-- A blank at which a line may be broken. -/
def isGap (c : Char) : Bool :=
  ['\t', '\n', '\x0b', '\x0c', '\r', ' '].contains c

/-- A character behind which a dash may stand. -/
def bearsDash (c : Char) : Bool :=
  isWord c || "!\"'&.,?".toList.contains c

/-- A letter of a compound word. -/
def isPart (c : Char) : Bool :=
  isWord c && !isDigit c

/-- A dash of at least two hyphens, with a word behind it, stands at the front: its length. -/
def dashAt? (cs : List Char) : Option Nat :=
  let n := (cs.takeWhile (· = '-')).length
  if 2 ≤ n && (cs.drop n).head?.any isWord then some n else none

/-- A word may be broken behind the hyphen that stands last in `before`, which is given from right
to left; letters stand on both sides of it. -/
def breaksBehind (before rest : List Char) : Bool :=
  let front :=
    match before with
    | '-' :: a :: b :: more =>
      isPart a && (isPart b || (b = '-' && more.head?.any isPart))
    | _ => false
  let back :=
    match rest with
    | a :: b :: more => isPart a && (isPart b || (b = '-' && more.head?.any isPart))
    | _ => false
  front && back

/-- A piece ends between what stands before, given from right to left, and the rest. -/
def endsBetween (before rest : List Char) : Bool :=
  breaksBehind before rest || rest.isEmpty || rest.head?.any isGap
    || (before.head?.any bearsDash && (dashAt? rest).isSome)

/-- The number of characters of the piece at the front of a text that is no gap and no dash, where
`before` is given from right to left. -/
def pieceSize (before : List Char) : List Char → Nat
  | [] => 0
  | c :: cs => if endsBetween (c :: before) cs then 1 else pieceSize (c :: before) cs + 1

/-- The pieces at whose ends a line may be broken, with `before` given from right to left. -/
def piecesFrom (before : List Char) : (fuel : Nat) → List Char → List (List Char)
  | 0, _ => []
  | _, [] => []
  | fuel + 1, c :: cs =>
    let size :=
      if isGap c then ((c :: cs).takeWhile isGap).length
      else
        match if before.head?.any bearsDash then dashAt? (c :: cs) else none with
        | some n => n
        | none => pieceSize before (c :: cs)
    let piece := (c :: cs).take size
    piece :: piecesFrom (piece.reverse ++ before) fuel ((c :: cs).drop size)

/-- The gaps of a text and what stands between them. -/
def words (cs : List Char) : List (List Char) :=
  cs.splitBy fun a b => isGap a == isGap b

/-- The pieces of a line. -/
def pieces (w : Wrapping) (cs : List Char) : List (List Char) :=
  if w.breaksCompounds then piecesFrom [] cs.length cs else words cs

/-- A piece of nothing but blanks. -/
def isEmptyPiece (piece : List Char) : Bool :=
  piece.all isBlank

/-- The pieces that fit in what is left of a line, and those that do not. -/
def fitting (width : Nat) : List (List Char) → List (List Char) × List (List Char)
  | [] => ([], [])
  | piece :: rest =>
    if piece.length ≤ width then
      let (taken, left) := fitting (width - piece.length) rest
      (piece :: taken, left)
    else ([], piece :: rest)

/-- Where a piece that is too long is broken, with so much space left on the line. -/
def breakAt (w : Wrapping) (space : Nat) (piece : List Char) : Nat :=
  match lastAt? ['-'] (piece.take space) with
  | some n =>
    if w.breaksBehindHyphens && 0 < n && (piece.take n).any (· ≠ '-') then n + 1 else space
  | none => space

/-- One line of pieces, and the pieces that are left; nothing if a piece would have to be broken
where it cannot be counted out. In a width below one, one character is taken at a time. -/
def line? (w : Wrapping) (isFirst : Bool) (row : List (List Char)) :
    Option (List (List Char) × List (List Char)) :=
  let row := if !isFirst && row.head?.any isEmptyPiece then row.drop 1 else row
  let (taken, left) := fitting w.width row
  match left with
  | [] => some (taken, [])
  | piece :: rest =>
    if w.width < piece.length then
      if w.breaksWords then
        if !w.isCounted && 0 < w.width then none
        else
          let n := w.breakAt (if w.width = 0 then 1 else w.width - taken.flatten.length) piece
          some (taken ++ [piece.take n], piece.drop n :: rest)
      else if taken.isEmpty then some ([piece], rest)
      else some (taken, left)
    else some (taken, left)

/-- The lines of pieces. -/
def linesOf (w : Wrapping) :
    (fuel : Nat) → (isFirst : Bool) → List (List Char) → Option (List (List Char))
  | 0, _, _ => some []
  | _, _, [] => some []
  | fuel + 1, isFirst, row => do
    let (taken, left) ← w.line? isFirst row
    let taken := if taken.getLast?.any isEmptyPiece then taken.dropLast else taken
    if taken.isEmpty then linesOf w fuel isFirst left
    else return taken.flatten :: (← linesOf w fuel false left)

/-- The lines of a text, if they can be made. -/
def wrapped? (w : Wrapping) (cs : List Char) : Option (List (List Char)) :=
  w.linesOf (2 * cs.length + 2) true (w.pieces cs)

end Wrapping

end TagCloud.Text
