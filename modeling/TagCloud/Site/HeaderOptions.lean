import TagCloud.Dictionary
import TagCloud.Text.Hex
import TagCloud.Text.Units
import TagCloud.Text.Utf8

/-!
# Options in a header

The value of a header may be followed by options, each with a key, an equals sign and either a plain
word or a text between quotes. Reading them never fails: what is no option is skipped up to the next
semicolon, and a text whose quote does not close ends the options.

A key with an asterisk at its end announces a value in which characters are written as percent signs
with the numbers of their bytes; a plain word can name the encoding first. A key with an asterisk
and a number at its end gives a part of a value, which is put behind the part before it, whatever
other keys stand between them and whatever the numbers are. Of two values of a key the later one
counts, be they whole or in parts.
-/

namespace TagCloud.Site

open TagCloud.Text

/-- A blank or a tab, the only space that a header has inside a line. -/
def isSpace (c : Char) : Bool :=
  c == ' ' || c == '\t'

/-- Drops blanks and tabs at both ends. -/
def trimSpace (cs : List Char) : List Char :=
  ((cs.dropWhile isSpace).reverse.dropWhile isSpace).reverse

/-- A character of a plain word. -/
def isWordChar (c : Char) : Bool :=
  c.isAlphanum || "_!#$%&'*+-.^`|~".toList.contains c

/-- The value of an option as it is written. -/
inductive Written where
  | plain (cs : List Char)
  | quoted (inside : List Char)
  deriving Repr, DecidableEq

/-- Cuts a text between quotes behind its opening quote: the inside, in which a backslash keeps the
quote or backslash behind it, and what follows the closing quote. -/
def quotedInside? : List Char → Option (List Char × List Char)
  | [] => none
  | '"' :: cs => some ([], cs)
  | '\\' :: c :: cs =>
    if c = '"' || c = '\\' then
      (quotedInside? cs).map fun (inside, rest) => ('\\' :: c :: inside, rest)
    else (quotedInside? (c :: cs)).map fun (inside, rest) => ('\\' :: inside, rest)
  | c :: cs => (quotedInside? cs).map fun (inside, rest) => (c :: inside, rest)

/-- The value at the front of a text, and what follows it. -/
def writtenValue? (cs : List Char) : Option (Written × List Char) :=
  let word := cs.takeWhile isWordChar
  if !word.isEmpty then some (.plain word, cs.drop word.length)
  else
    match cs with
    | '"' :: cs => (quotedInside? cs).map fun (inside, rest) => (.quoted inside, rest)
    | _ => none

/-- What stands at the front of a text where an option may stand. -/
inductive Front where
  /-- An option with its key in lower case, and what follows it. -/
  | option (key : List Char) (value : Written) (rest : List Char)
  /-- Something else; the search for the next option goes on here. -/
  | other (rest : List Char)
  /-- A quote that does not close. -/
  | unclosed

/-- Reads the option at the front of a text. -/
def Front.of (cs : List Char) : Front :=
  let key := cs.takeWhile isWordChar
  match key.isEmpty, cs.drop key.length with
  | false, '=' :: rest =>
    match writtenValue? rest, rest.head? with
    | some (value, rest), _ => .option (key.map Char.toLower) value rest
    | none, some '"' => .unclosed
    | none, _ => .other rest
  | _, _ => .other cs

/-- What follows the next semicolon, without the space behind it. -/
def behindSemicolon? (cs : List Char) : Option (List Char) :=
  match cs.dropWhile (· ≠ ';') with
  | _ :: rest => some (rest.dropWhile isSpace)
  | [] => none

/-- The options of a text as they are written. There are no more of them than characters. -/
def writtenOptions : (fuel : Nat) → List Char → List (List Char × Written)
  | 0, _ => []
  | fuel + 1, cs =>
    let next (rest : List Char) : List (List Char × Written) :=
      ((behindSemicolon? rest).map (writtenOptions fuel)).getD []
    match Front.of cs with
    | .option key value rest => (key, value) :: next rest
    | .other rest => next rest
    | .unclosed => []

/-- Turns percent signs with two hexadecimal digits into bytes, among characters that are single
bytes already. -/
def percentBytes : List Char → List UInt8
  | [] => []
  | '%' :: a :: b :: cs =>
    match hexNumber? [a, b] with
    | some n => UInt8.ofNat n :: percentBytes cs
    | none => UInt8.ofNat '%'.toNat :: percentBytes (a :: b :: cs)
  | c :: cs => encodeUtf8 c.toString ++ percentBytes cs

/-- The text of bytes in UTF-8 in which each row of bytes that is no character counts as one
replacement character. -/
def decodeLossy : (fuel : Nat) → List UInt8 → List Char
  | 0, _ => []
  | fuel + 1, bytes =>
    match decodeUtf8 bytes with
    | .ok cs => cs
    | .error e =>
      let before := (decodeUtf8 (bytes.take e.position)).toOption.getD []
      before ++ '\uFFFD' :: decodeLossy fuel (bytes.drop (e.position + max e.size 1))

/-- The text of bytes in one of the few encodings that options may be written in. -/
def decodeIn? (charset : List Char) (bytes : List UInt8) : Option (List Char) :=
  if charset = "utf-8".toList then some (decodeLossy bytes.length bytes)
  else if charset = "ascii".toList || charset = "us-ascii".toList then
    some (bytes.map fun b => if b < 128 then Char.ofNat b.toNat else '\uFFFD')
  else if charset = "iso-8859-1".toList then some (bytes.map fun b => Char.ofNat b.toNat)
  else none

/-- The text that percent signs and numbers of bytes stand for in an encoding. Only the stretches of
ASCII are read. -/
def percentDecoded? (charset cs : List Char) : Option (List Char) :=
  let stretches := cs.splitBy fun a b => (a.val < 128) == (b.val < 128)
  (stretches.mapM fun (stretch : List Char) =>
    if stretch.all (·.val < 128) then decodeIn? charset (percentBytes stretch)
    else some stretch).map List.flatten

/-- The name of an encoding, and what follows it and the name of a language, each before a single
quote. -/
def charsetOf? (cs : List Char) : Option (List Char × List Char) :=
  let charset := cs.takeWhile (· ≠ '\x27')
  match (cs.drop (charset.length + 1)).dropWhile (· ≠ '\x27') with
  | _ :: c :: text => some (charset.map Char.toLower, c :: text)
  | _ => none

/-- A quoted text without its backslashes. -/
def unquoted : List Char → List Char
  | [] => []
  | '\\' :: c :: cs => c :: unquoted cs
  | c :: cs => c :: unquoted cs

/-- Turns the escape that forms write for a quote back into the quote. -/
def unescapeQuotes : List Char → List Char
  | [] => []
  | '%' :: '2' :: '2' :: cs => '"' :: unescapeQuotes cs
  | c :: cs => c :: unescapeQuotes cs

/-- The characters of a value, without its quotes. -/
def Written.chars : Written → List Char
  | .plain cs => cs
  | .quoted inside => unquoted inside

/-- The encoding that a plain word names, and what is written in it. -/
def Written.charset? : Written → Option (List Char × List Char)
  | .plain cs => charsetOf? cs
  | .quoted _ => none

/-- The text of a value that is written in bytes, and its encoding. `charset` is the encoding of a
value that does not name its own; a value in none of the known ones is left as it is written. -/
def Written.encodedText (charset : List Char) (value : Written) : List Char × List Char :=
  let (named, cs) := value.charset?.getD (charset, value.chars)
  let charset := if named.isEmpty then charset else named
  (charset, (percentDecoded? charset cs).getD cs)

/-- The key that a part of a value is given for. -/
def partKey? (key : List Char) : Option (List Char) :=
  let digits := key.reverse.takeWhile Char.isDigit
  match digits.isEmpty, key.reverse.drop digits.length with
  | false, '*' :: before => some before.reverse
  | _, _ => none

/-- The value of a key as far as it has been read. A value that comes in parts has the encoding of
its last part, and goes on with the next one. -/
structure OptionValue where
  text : List Char
  running : Option (List Char)

/-- Takes the value of one option in. A part goes behind the part of the same key before it, whose
encoding it shares. -/
def takeOption (o : Dictionary (List Char) OptionValue) (key : List Char) (value : Written) :
    Dictionary (List Char) OptionValue :=
  let encoded := key.getLast? = some '*'
  let key := if encoded then key.dropLast else key
  let read (charset : List Char) : List Char × List Char :=
    if encoded then value.encodedText charset else (charset, unescapeQuotes value.chars)
  match partKey? key with
  | some key =>
    let before := (Dictionary.get? key o).bind fun v =>
      v.running.map fun charset => (v.text, charset)
    let (text, charset) := before.getD ([], [])
    let (charset, more) := read charset
    Dictionary.put key ⟨text ++ more, some charset⟩ o
  | none => Dictionary.put key ⟨(read []).2, none⟩ o

/-- The value of an option in the options that follow the value of a header. -/
def option? (key : String) (cs : List Char) : Option String :=
  let written := writtenOptions (cs.length + 1) (trimSpace cs)
  let o := written.foldl (fun o (key, value) => takeOption o key value) []
  (Dictionary.get? key.toList o).map fun v => String.ofList v.text

end TagCloud.Site
