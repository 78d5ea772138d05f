import TagCloud.Text.Blank
import TagCloud.Text.Front

/-!
# Occurrences of one text in another

The occurrences of a row of characters in a text are found from left to right, and no two of them
overlap. They can be counted, replaced, up to a number of them, or taken for the places where the
text comes apart. The empty row occurs at every place, before and behind every character.
-/

namespace TagCloud.Text

/-- A row of characters stands somewhere in a text, or a row of bytes among others. -/
def occursIn {α : Type} [BEq α] (part : List α) : List α → Bool
  | [] => part.isEmpty
  | c :: cs => part.isPrefixOf (c :: cs) || occursIn part cs

/-- A number of occurrences without the one that has been met. -/
def oneLess (limit : Option Nat) : Option Nat :=
  limit.map (· - 1)

/-- Puts `new` at every place of a text, as often as the limit allows. -/
def interspersed (new : List Char) (limit : Option Nat) (cs : List Char) : List Char :=
  if limit = some 0 then cs
  else
    match cs with
    | [] => new
    | c :: cs => new ++ c :: interspersed new (oneLess limit) cs

/-- Replaces the occurrences of `old` that begin behind the next `skip` characters, which belong to
an occurrence that has been replaced already. -/
def replacedAfter (old new : List Char) : (skip : Nat) → (limit : Option Nat) → List Char →
    List Char
  | _, _, [] => []
  | skip + 1, limit, _ :: cs => replacedAfter old new skip limit cs
  | 0, limit, c :: cs =>
    if limit ≠ some 0 && old.isPrefixOf (c :: cs) then
      new ++ replacedAfter old new (old.length - 1) (oneLess limit) cs
    else c :: replacedAfter old new 0 limit cs

/-- Replaces the occurrences of `old` by `new`, as many as the limit allows. -/
def replaced (old new : List Char) (limit : Option Nat) (cs : List Char) : List Char :=
  if old.isEmpty then interspersed new limit cs else replacedAfter old new 0 limit cs

/-- The place of the first occurrence in a text. -/
def firstAt? (part : List Char) : List Char → Option Nat
  | [] => if part.isEmpty then some 0 else none
  | c :: cs => if part.isPrefixOf (c :: cs) then some 0 else (firstAt? part cs).map (· + 1)

/-- The place of the last occurrence in a text. -/
def lastAt? (part cs : List Char) : Option Nat :=
  (firstAt? part.reverse cs.reverse).map fun n => cs.length - part.length - n

/-- The number of occurrences behind the next `skip` characters. -/
def countAfter (part : List Char) : (skip : Nat) → List Char → Nat
  | _, [] => 0
  | skip + 1, _ :: cs => countAfter part skip cs
  | 0, c :: cs =>
    if part.isPrefixOf (c :: cs) then countAfter part (part.length - 1) cs + 1
    else countAfter part 0 cs

/-- The number of occurrences in a text. -/
def occurrences (part cs : List Char) : Nat :=
  if part.isEmpty then cs.length + 1 else countAfter part 0 cs

/-- The pieces of a text between the occurrences of `separator`, the first of them begun with
`current`, from right to left. -/
def piecesAfter (separator : List Char) : (limit : Option Nat) → (skip : Nat) →
    (current : List Char) → List Char → List (List Char)
  | _, _, current, [] => [current.reverse]
  | limit, skip + 1, current, _ :: cs => piecesAfter separator limit skip current cs
  | limit, 0, current, c :: cs =>
    if limit ≠ some 0 && separator.isPrefixOf (c :: cs) then
      current.reverse :: piecesAfter separator (oneLess limit) (separator.length - 1) [] cs
    else piecesAfter separator limit 0 (c :: current) cs

/-- The pieces of a text between the occurrences of `separator`, of which no more count than the
limit allows. -/
def pieces (separator : List Char) (limit : Option Nat) (cs : List Char) : List (List Char) :=
  piecesAfter separator limit 0 [] cs

/-- The pieces of a text between blanks, the first of them begun with `current`, from right to
left. What is left when the limit is met is one more piece. -/
def wordsAfter (limit : Option Nat) (current : List Char) : List Char → List (List Char)
  | [] => if current.isEmpty then [] else [current.reverse]
  | c :: cs =>
    if isBlank c then
      if current.isEmpty then wordsAfter limit [] cs
      else current.reverse :: wordsAfter (oneLess limit) [] cs
    else if current.isEmpty && limit = some 0 then [c :: cs]
    else wordsAfter limit (c :: current) cs

/-- The pieces of a text between blanks, no more than the limit allows and what is left. -/
def words (limit : Option Nat) (cs : List Char) : List (List Char) :=
  wordsAfter limit [] cs

/-- What a way to take a text apart gives if it begins at the end of the text. -/
def fromTheEnd (apart : List Char → List (List Char)) (cs : List Char) : List (List Char) :=
  ((apart cs.reverse).map List.reverse).reverse

/-- A character that ends a line. -/
def isLineEnd (c : Char) : Bool :=
  ['\n', '\r', '\x0b', '\x0c', '\x1c', '\x1d', '\x1e', '\u0085', '\u2028', '\u2029'].contains c

/-- The lines of a text, the first of them begun with `current`, from right to left. Their ends are
kept if `keeps` says so. -/
def linesAfter (keeps : Bool) (current : List Char) : List Char → List (List Char)
  | [] => if current.isEmpty then [] else [current.reverse]
  | '\r' :: '\n' :: cs =>
    (current.reverse ++ if keeps then ['\r', '\n'] else []) :: linesAfter keeps [] cs
  | c :: cs =>
    if isLineEnd c then
      (current.reverse ++ if keeps then [c] else []) :: linesAfter keeps [] cs
    else linesAfter keeps (c :: current) cs

/-- The lines of a text; the last one may lack its end. -/
def lines (keeps : Bool) (cs : List Char) : List (List Char) :=
  linesAfter keeps [] cs

/-- A text without the characters of a kind at its end. -/
def dropLast (drops : Char → Bool) (cs : List Char) : List Char :=
  (cs.reverse.dropWhile drops).reverse

end TagCloud.Text
