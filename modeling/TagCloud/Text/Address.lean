import TagCloud.Text.Blank
import TagCloud.Text.Digit
import TagCloud.Text.Front
import TagCloud.Text.Occurrence
import TagCloud.Text.Word

/-!
# Addresses

Whether a word is the address of a page or of a mailbox is told from its form. A page is named with
its scheme, or with a name that begins or ends as the names of sites do; a number behind a colon may
follow, and then whatever begins with a slash, a question mark or a number sign. The case of letters
does not count.

The name of a host holds none of the characters that can follow it, so it is everything up to the
first of them.

In a text an address may stand in brackets and before a full stop. Such marks are taken off before a
word is looked at, but for closing brackets that the address itself has opened.
-/

namespace TagCloud.Text

/-- A letter without its case, for the letters of plain names. -/
def plainLetter (c : Char) : Char :=
  if c = 'ſ' then 's' else if c = 'K' then 'k' else if c = 'ı' || c = 'İ' then 'i' else c.toLower

/-- What follows a word at the front of a text, whatever the case of its letters. -/
def behindCaseless? (word cs : List Char) : Option (List Char) :=
  if (cs.take word.length).map plainLetter = word then some (cs.drop word.length) else none

/-- What follows the scheme of a page at the front of a text. -/
def behindScheme? (cs : List Char) : Option (List Char) :=
  (behindCaseless? "https://".toList cs).or (behindCaseless? "http://".toList cs)

/-- A character of a name in an address. -/
def isNamePiece (c : Char) : Bool :=
  isWord c || c = '%'

/-- A text of a length between two bounds, all of a class. -/
def isRun (least most : Nat) (is : Char → Bool) (cs : List Char) : Bool :=
  least ≤ cs.length && cs.length ≤ most && cs.all is

/-- A part of the name of a host. -/
def isLabel (least most : Nat) (cs : List Char) : Bool :=
  isRun least most (fun c => isNamePiece c || c = '-') cs

/-- The last part of the name of a host that is known to be one. -/
def isTopLabel (cs : List Char) : Bool :=
  isRun 2 63 (fun c => (plainLetter c).isLower) cs
    || match behindCaseless? "xn--".toList cs with
      | some rest => isRun 2 59 isNamePiece rest
      | none => false

/-- The last parts that the name of a host is known by. -/
def commonTopLabels : List (List Char) :=
  ["com", "net", "int", "edu", "gov", "org", "info", "mil"].map String.toList

/-- The name of a host behind a scheme. -/
def isHost (name : List Char) : Bool :=
  match (pieces ['.'] none name).reverse with
  | top :: labels => isTopLabel top && labels.all (isLabel 1 name.length)
  | [] => false

/-- The name of a host that is known by its last part. -/
def isCommonHost (name : List Char) : Bool :=
  match (pieces ['.'] none name).reverse with
  | top :: label :: labels =>
    commonTopLabels.contains (top.map plainLetter)
      && (label :: labels).all (isLabel 2 63)
  | _ => false

/-- The number of a host in four parts. -/
def isHostNumber (name : List Char) : Bool :=
  let parts := pieces ['.'] none name
  parts.length == 4 && parts.all (isRun 1 3 isDigit)

/-- A digit of a number of a host in brackets. -/
def isHexDigit (c : Char) : Bool :=
  isDigit c || ('a' ≤ plainLetter c && plainLetter c ≤ 'f')

/-- The number of a host in brackets: two groups of up to four digits with colons behind them, and
up to six more, of which a colon may be left out. -/
def isLongHostNumber (inside : List Char) : Bool :=
  match pieces [':'] none inside with
  | first :: second :: others =>
    let groups (part : List Char) : Nat := (part.length + 3) / 4
    isRun 0 4 isHexDigit first && isRun 0 4 isHexDigit second
      && others.all (·.all isHexDigit) && !others.isEmpty
      && others.dropLast.foldl (fun n part => n + max 1 (groups part)) 0
        + groups (others.getLast?.getD []) ≤ 6
  | _ => false

/-- What may follow a host: nothing, or what begins with a mark. -/
def isPath : List Char → Bool
  | [] => true
  | c :: _ => c = '/' || c = '?' || c = '#'

/-- What may follow a host: a number behind a colon, and then a path. -/
def isBehindHost (cs : List Char) : Bool :=
  match cs with
  | ':' :: rest =>
    let digits := rest.takeWhile isDigit
    isRun 1 5 isDigit digits && isPath (rest.drop digits.length)
  | cs => isPath cs

/-- The name at the front of an address, and what follows it. -/
def hostName (cs : List Char) : List Char × List Char :=
  cs.span fun c => isNamePiece c || c = '-' || c = '.'

/-- The address of a page. -/
def isPageAddress (cs : List Char) : Bool :=
  let named (is : List Char → Bool) (cs : List Char) : Bool :=
    let (name, rest) := hostName cs
    is name && isBehindHost rest
  let inBrackets : List Char → Bool
    | '[' :: cs =>
      let (inside, rest) := cs.span (· ≠ ']')
      isLongHostNumber inside && !rest.isEmpty && isBehindHost (rest.drop 1)
    | _ => false
  ((behindScheme? cs).any fun rest =>
      named isHost rest || named isHostNumber rest || inBrackets rest)
    || ((behindCaseless? "www.".toList cs).any (named isHost))
    || named isCommonHost cs

/-- The address of a mailbox. -/
def isMailAddress (cs : List Char) : Bool :=
  match cs.reverse.span (· ≠ '@') with
  | (host, '@' :: _ :: _) =>
    let (top, rest) := host.span isWord
    !top.isEmpty && rest.length > 1 && rest.head? = some '.'
      && rest.all (fun c => isWord c || c = '.' || c = '-')
      && (rest.getLast?.any isWord)
  | _ => false

/-- What a host can be asked to treat as the beginning of an address. -/
def isScheme (cs : List Char) : Bool :=
  let (name, rest) := cs.span fun c => isWord c || c = '.' || c = '+' || c = '-'
  2 ≤ name.length && (rest = [':'] || rest = [':', '/'] || rest = [':', '/', '/'])

/-! ## Marks around an address -/

/-- A word with the marks before an address and those behind it apart. -/
structure Marked where
  head : List Char
  middle : List Char
  tail : List Char
  deriving Repr, DecidableEq

namespace Marked

/-- The marks at the front of a text, and what follows them. -/
def openingMarks : List Char → List Char × List Char
  | '(' :: cs => let (marks, rest) := openingMarks cs; ('(' :: marks, rest)
  | '<' :: cs => let (marks, rest) := openingMarks cs; ('<' :: marks, rest)
  | '&' :: 'l' :: 't' :: ';' :: cs =>
    let (marks, rest) := openingMarks cs
    ("&lt;".toList ++ marks, rest)
  | cs => ([], cs)

/-- The marks at the end of a text and what stands before them, all given from right to left. -/
def closingMarks : List Char → List Char × List Char
  | ';' :: 't' :: 'g' :: '&' :: cs =>
    let (marks, rest) := closingMarks cs
    ("&gt;".toList.reverse ++ marks, rest)
  | c :: cs =>
    if [')', '>', '.', ','].contains c then
      let (marks, rest) := closingMarks cs
      (c :: marks, rest)
    else ([], c :: cs)
  | [] => ([], [])

/-- Moves text up to a closing bracket from the tail to the middle, so many times. -/
def moved (closing : List Char) : Nat → Marked → Marked
  | 0, m => m
  | n + 1, m =>
    match firstAt? closing m.tail with
    | none => m
    | some place =>
      let size := place + closing.length
      moved closing n { m with middle := m.middle ++ m.tail.take size, tail := m.tail.drop size }

/-- Moves closing brackets to the middle if more are opened there than closed. -/
def balanced (m : Marked) (brackets : List Char × List Char) : Marked :=
  let (opening, closing) := brackets
  let opened := occurrences opening m.middle
  if opened ≤ occurrences closing m.middle then m
  else moved closing (min opened (occurrences closing m.tail)) m

/-- The brackets that may stand in an address. -/
def brackets : List (List Char × List Char) :=
  [(['('], [')']), (['<'], ['>']), ("&lt;".toList, "&gt;".toList)]

/-- A word taken apart. -/
def ofWord (cs : List Char) : Marked :=
  let (head, rest) := openingMarks cs
  let (tail, middle) := closingMarks rest.reverse
  brackets.foldl balanced ⟨head, middle.reverse, tail.reverse⟩

end Marked

end TagCloud.Text
