import TagCloud.Site.HeaderOptions
import TagCloud.Text.Blank
import TagCloud.Text.Lower

/-!
# Forms

A form arrives in parts. A line with two hyphens and a boundary stands before each part, and one
with two more hyphens behind the last. Each part has a header of some lines, an empty line and its
contents, which go on to the next boundary. A form that breaks off, or that has a part that does not
say what it is for, has no parts at all; what follows the last boundary does not count.
-/

namespace TagCloud.Site

open TagCloud.Text

/-!
## The parts of a form

The header of a part names the field of the form that the part is for; a part is a file if its
header has a name for one, be it empty. The names stand between quotes as they were typed, so what
they hold may end them early, begin another option, or begin another line of the header.
-/

/-- A part of a form: the name of its field, the name of its file if it is one, and its contents. -/
structure FilePart where
  field : String
  name : Option String
  bytes : List UInt8
  deriving Repr, DecidableEq

/-- Joins the lines of a header that go on: a line end before a blank or a tab becomes one blank. -/
def joinLines : List Char → List Char
  | '\n' :: c :: cs => if isSpace c then ' ' :: joinLines cs else '\n' :: joinLines (c :: cs)
  | c :: cs => c :: joinLines cs
  | [] => []

/-- The lines of a text. -/
def linesOf : List Char → List (List Char)
  | [] => [[]]
  | c :: cs =>
    match linesOf cs with
    | line :: more => if c = '\n' then [] :: line :: more else (c :: line) :: more
    | [] => [[c]]

/-- A line of a header as a name in lower case and a value. -/
def nameAndValue (line : List Char) : String × List Char :=
  let name := line.takeWhile (· ≠ ':')
  (lower (String.ofList (trim name)), trim (line.drop (name.length + 1)))

/-- The value under a name in the header of a part. -/
def headerValue? (name : String) (header : List Char) : Option (List Char) :=
  let lines := linesOf (joinLines (unifyNewlines header))
  ((lines.map nameAndValue).find? fun (n, _) => n = name).map (·.2)

/-- A part with some header and some contents. The header has to be text, and has to say what the
part is for. -/
def FilePart.ofHeader? (header contents : List UInt8) : Option FilePart := do
  let line ← headerValue? "content-disposition" (← (decodeUtf8 header).toOption)
  let options := (line.dropWhile (· ≠ ';')).drop 1
  return ⟨(option? "name" options).getD "", option? "filename" options, contents⟩

/-! ## Forms -/

/-- What follows the end of a line. A line may end in three ways. -/
def behindLineEnd? : List UInt8 → Option (List UInt8)
  | 13 :: 10 :: bytes | 13 :: bytes | 10 :: bytes => some bytes
  | _ => none

/-- A blank inside a line. -/
def isBlankByte (b : UInt8) : Bool :=
  b == 32 || b == 9 || b == 11 || b == 12

/-- What follows a boundary, and whether it is the last one. Behind the last one the line need not
end. -/
def behindBoundary? (boundary bytes : List UInt8) : Option (Bool × List UInt8) :=
  let mark := 45 :: 45 :: boundary
  if !mark.isPrefixOf bytes then none
  else
    match bytes.drop mark.length with
    | 45 :: 45 :: rest => some (true, rest)
    | rest => (behindLineEnd? (rest.dropWhile isBlankByte)).map fun rest => (false, rest)

/-- What follows the first boundary, wherever it stands. -/
def behindFirstBoundary? (boundary : List UInt8) : List UInt8 → Option (Bool × List UInt8)
  | [] => none
  | byte :: bytes =>
    (behindBoundary? boundary (byte :: bytes)).or (behindFirstBoundary? boundary bytes)

/-- Cuts at the first boundary behind the end of a line: what stands before the line end, whether
the boundary is the last one, and what follows it. -/
def atBoundary? (boundary : List UInt8) : List UInt8 → Option (List UInt8 × Bool × List UInt8)
  | [] => none
  | byte :: bytes =>
    match (behindLineEnd? (byte :: bytes)).bind (behindBoundary? boundary) with
    | some (isLast, rest) => some ([], isLast, rest)
    | none => (atBoundary? boundary bytes).map fun (before, rest) => (byte :: before, rest)

/-- Cuts a part at its first empty line: the header, and what follows it from the line end before
the contents on. Both line ends are of one kind. -/
def atEmptyLine? : List UInt8 → Option (List UInt8 × List UInt8)
  | [] => none
  | 13 :: 10 :: 13 :: 10 :: bytes => some ([], 13 :: 10 :: bytes)
  | 13 :: 13 :: bytes => some ([], 13 :: bytes)
  | 10 :: 10 :: bytes => some ([], 10 :: bytes)
  | byte :: bytes => (atEmptyLine? bytes).map fun (header, rest) => (byte :: header, rest)

/-- The parts that follow a boundary. There are no more of them than bytes. -/
def partsBehind? (boundary : List UInt8) : (fuel : Nat) → List UInt8 → Option (List FilePart)
  | 0, _ => none
  | fuel + 1, bytes => do
    let (header, rest) ← atEmptyLine? bytes
    let (contents, isLast, more) ← atBoundary? boundary rest
    let begun := rest.length - ((behindLineEnd? rest).getD rest).length
    let part ← FilePart.ofHeader? header (contents.drop begun)
    if isLast then return [part]
    else return part :: (← partsBehind? boundary fuel more)

/-- The parts of a form, or none if it is malformed. -/
def formParts (boundary bytes : List UInt8) : List FilePart :=
  match behindFirstBoundary? boundary bytes with
  | some (false, rest) => (partsBehind? boundary (rest.length + 1) rest).getD []
  | _ => []

end TagCloud.Site
