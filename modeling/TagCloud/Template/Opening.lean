import TagCloud.Template.Tag
import TagCloud.Template.Token

/-!
# Openings and closings

A template is text with openings in it. The first opening counts, wherever it stands; where several
delimiters stand at the same place, the marker of a raw block comes first and then the longest. An
empty delimiter stands everywhere, and comes last. Behind an opening may stand a sign, which says
what becomes of the blanks before it.

A raw block ends at the first marker that closes one, a comment at its first closing delimiter;
nothing in between is looked at.
-/

namespace TagCloud.Template

open TagCloud.Text

/-- What a delimiter opens. -/
inductive Opening where
  | raw
  | variable
  | comment
  | block
  deriving Repr, DecidableEq

/-- The sign behind an opening delimiter: a hyphen asks for the blanks before the delimiter to be
dropped, and a plus sign for them to be kept. -/
inductive Sign where
  | hyphen
  | plus
  | none
  deriving Repr, DecidableEq

/-- Reads the sign behind an opening delimiter. -/
def sign : List Char → Sign × List Char
  | '-' :: cs => (.hyphen, cs)
  | '+' :: cs => (.plus, cs)
  | cs => (.none, cs)

/-- Reads a marker with a word between the delimiters of blocks: its sign, and what follows. -/
def marker? (d : Delimiters) (word : List Char) (closing : Closing) :
    List Char → Option (Sign × List Char) :=
  after d.blockStart fun cs =>
    let (sign, cs) := sign cs
    (afterBlanks (after word (afterBlanks (behindClosing? d.blockEnd closing))) cs).map (sign, ·)

/-- The choice that leaves least, the earlier one of equals. -/
def least {α : Type} : List (α × List Char) → Option (α × List Char)
  | [] => none
  | found :: others =>
    match least others with
    | some other => if other.2.length < found.2.length then some other else some found
    | none => some found

/-- The opening at the front of a text: what it opens, its sign, and what follows. -/
def opening? (d : Delimiters) (cs : List Char) : Option (Opening × Sign × List Char) :=
  match marker? d rawWord ⟨false, false⟩ cs with
  | some (sign, rest) => some (.raw, sign, rest)
  | none =>
    let words := [(Opening.variable, d.variableStart), (.comment, d.commentStart),
      (.block, d.blockStart)]
    let found := words.filterMap fun (opening, word) => (behind? word cs).map (opening, ·)
    (least found).map fun (opening, rest) => (opening, sign rest)

/-- The text before the first opening, the opening, its sign, and what follows it. -/
def firstOpening? (d : Delimiters) : List Char → Option (List Char × Opening × Sign × List Char)
  | [] => (opening? d []).map fun found => ([], found)
  | c :: cs =>
    match opening? d (c :: cs) with
    | some found => some ([], found)
    | none => (firstOpening? d cs).map fun (text, found) => (c :: text, found)

/-- The text up to the marker that closes a raw block, the sign of the marker, and what follows
it. -/
def rawBody? (d : Delimiters) (closing : Closing) :
    List Char → Option (List Char × Sign × List Char)
  | [] => (marker? d endrawWord closing []).map fun found => ([], found)
  | c :: cs =>
    match marker? d endrawWord closing (c :: cs) with
    | some found => some ([], found)
    | none => (rawBody? d closing cs).map fun (text, found) => (c :: text, found)

/-- What follows the comment whose opening has been read. -/
def behindComment? (d : Delimiters) (closing : Closing) : List Char → Option (List Char) :=
  firstPlace (behindClosing? d.commentEnd closing)

/-- A text without the blanks at its end that belong to a line of their own. The text itself may
begin within a line. -/
def dropIndent (beginsLine : Bool) (cs : List Char) : List Char :=
  let front := trimRight cs
  let blanks := cs.drop front.length
  match blanks.reverse.dropWhile (· ≠ '\n') with
  | [] => if front.isEmpty && beginsLine then [] else cs
  | kept => front ++ kept.reverse

/-- The text before an opening, as the opening leaves it. -/
def textBefore (takesIndent beginsLine : Bool) (sign : Sign) (cs : List Char) : List Char :=
  match sign with
  | .hyphen => trimRight cs
  | .plus => cs
  | .none => if takesIndent then dropIndent beginsLine cs else cs

end TagCloud.Template
