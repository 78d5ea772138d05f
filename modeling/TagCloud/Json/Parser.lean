import TagCloud.Json.Value
import TagCloud.Text.Units

/-!
# Reading JSON

The reader works on the characters that are left. Whatever it reads, it gives back what remains, and
when it stops it says how many characters remained where it stopped; line, column and offset are
found from that number when all is over.

Three rules go beyond the standard. The names of the numbers that are not finite are values. A whole
number is bounded in length like every other whole number in the library, which is noticed when the
number is met, before anything behind it is read. And arrays and objects are bounded in depth: there
is room for so many levels, and the bracket that would open one more stops the reader.

The recursion runs on fuel. A value inside another one begins at least one character later and is
reached in at most two steps, so twice the length of the text, and two, is always enough; the
complaint at the end of the fuel is never made.
-/

namespace TagCloud.Json

/-- What is wrong with a text that is no JSON. -/
inductive Complaint where
  | byteOrderMark
  | noValue
  | noName
  | noColon
  | noComma
  | unterminated
  | controlCharacter
  | badEscape
  | badUnicodeEscape
  | extraData
  deriving Repr, DecidableEq

/-- The text shown for a complaint. -/
def Complaint.message : Complaint → String
  | .byteOrderMark => "Unexpected UTF-8 BOM (decode using utf-8-sig)"
  | .noValue => "Expecting value"
  | .noName => "Expecting property name enclosed in double quotes"
  | .noColon => "Expecting ':' delimiter"
  | .noComma => "Expecting ',' delimiter"
  | .unterminated => "Unterminated string starting at"
  | .controlCharacter => "Invalid control character at"
  | .badEscape => "Invalid \\escape"
  | .badUnicodeEscape => "Invalid \\uXXXX escape"
  | .extraData => "Extra data"

/-- Arrays and objects are too deep in one another; `object` tells which of them finds no room. -/
structure TooDeep where
  object : Bool
  deriving Repr, DecidableEq

/-- The text shown for a value that is too deep. -/
def TooDeep.message (e : TooDeep) : String :=
  let shape := if e.object then "object" else "array"
  "maximum recursion depth exceeded while decoding a JSON " ++ shape ++ " from a unicode string"

/-- Why the reader stopped: a complaint where `left` characters remained, a number of too many
digits, or a level that there is no room for. -/
inductive Stop where
  | complaint (what : Complaint) (left : Nat)
  | tooManyDigits (e : Number.TooManyDigits)
  | tooDeep (e : TooDeep)
  deriving Repr, DecidableEq

/-- Drops blanks, of which JSON has four. -/
def skipBlanks (cs : List Char) : List Char :=
  cs.dropWhile fun c => c == ' ' || c == '\t' || c == '\n' || c == '\r'

/-- The character of a short escape. -/
def shortEscape? : Char → Option Char
  | '"' => some '"'
  | '\\' => some '\\'
  | '/' => some '/'
  | 'b' => some '\x08'
  | 'f' => some '\x0c'
  | 'n' => some '\n'
  | 'r' => some '\r'
  | 't' => some '\t'
  | _ => none

/-- The code unit of four hexadecimal digits, with which a text must not end. -/
def codeUnit? : List Char → Option (Nat × List Char)
  | a :: b :: c :: d :: e :: cs => (Text.hexNumber? [a, b, c, d]).map fun n => (n, e :: cs)
  | _ => none

/-- Reads the inside of a string and its closing quote. `opening` is the number of characters that
were left at the opening quote; what is read so far is in `read`, the last character first. -/
def string (opening : Nat) : (fuel : Nat) → (read : List Char) → List Char →
    Except Stop (List Char × List Char)
  | 0, _, _ => .error (.complaint .unterminated opening)
  | _, _, [] => .error (.complaint .unterminated opening)
  | fuel + 1, read, c :: cs =>
    if c = '"' then .ok (read.reverse, cs)
    else if c = '\\' then
      match cs with
      | [] => .error (.complaint .unterminated opening)
      | 'u' :: rest =>
        match codeUnit? rest with
        | none => .error (.complaint .badUnicodeEscape (rest.length + 1))
        | some (high, rest) =>
          match rest with
          | '\\' :: 'u' :: more =>
            if 0xD800 ≤ high && high ≤ 0xDBFF && 4 < more.length then
              match codeUnit? more with
              | none => .error (.complaint .badUnicodeEscape (more.length + 1))
              | some (low, after) =>
                match Text.pairChar? high low with
                | some c => string opening fuel (c :: read) after
                | none => string opening fuel (Text.unitChar high :: read) rest
            else string opening fuel (Text.unitChar high :: read) rest
          | _ => string opening fuel (Text.unitChar high :: read) rest
      | e :: rest =>
        match shortEscape? e with
        | some c => string opening fuel (c :: read) rest
        | none => .error (.complaint .badEscape (rest.length + 2))
    else if c.toNat < 32 then .error (.complaint .controlCharacter (cs.length + 1))
    else string opening fuel (c :: read) cs

/-- The digits before the point of a number: a zero stands alone. -/
def wholeDigits : List Char → List Char
  | '0' :: _ => ['0']
  | cs => cs.takeWhile Char.isDigit

/-- The digits after the point of a number, if a point with digits follows. -/
def fractionDigits : List Char → List Char
  | '.' :: cs => cs.takeWhile Char.isDigit
  | _ => []

/-- The exponent of a number and the number of characters that it takes, none if there is none. -/
def exponent? : List Char → Option (Int × Nat)
  | e :: cs =>
    if e = 'e' || e = 'E' then
      let (sign, digits) :=
        match cs with
        | '-' :: ds => (some true, ds.takeWhile Char.isDigit)
        | '+' :: ds => (some false, ds.takeWhile Char.isDigit)
        | ds => (none, ds.takeWhile Char.isDigit)
      let size := Int.ofNat (Text.number digits)
      if digits.isEmpty then none
      else
        some (if sign = some true then -size else size,
          digits.length + (if sign.isSome then 2 else 1))
    else none
  | [] => none

/-- Reads a number. -/
def number (cs : List Char) : Except Stop (Value × List Char) :=
  let (negative, body) :=
    match cs with
    | '-' :: body => (true, body)
    | body => (false, body)
  let whole := wholeDigits body
  if whole.isEmpty then .error (.complaint .noValue cs.length)
  else
    let rest := body.drop whole.length
    let fraction := fractionDigits rest
    let rest := if fraction.isEmpty then rest else rest.drop (fraction.length + 1)
    match fraction.isEmpty, exponent? rest with
    | true, none =>
      match Number.readDigits whole with
      | .ok n => .ok (.whole (if negative then -Int.ofNat n else Int.ofNat n), rest)
      | .error e => .error (.tooManyDigits e)
    | _, exponent =>
      let (power, size) := exponent.getD (0, 0)
      let mantissa := Text.number (whole ++ fraction)
      .ok (.real (Number.ofDecimal negative mantissa (power - Int.ofNat fraction.length)),
        rest.drop size)

mutual

/-- Reads a value with room for so many levels. -/
def value : (fuel room : Nat) → List Char → Except Stop (Value × List Char)
  | 0, _, cs => .error (.complaint .noValue cs.length)
  | fuel + 1, room, cs =>
    match cs with
    | '"' :: rest => do
      let (s, rest) ← string cs.length cs.length [] rest
      return (.string (String.ofList s), rest)
    | '{' :: rest =>
      match room with
      | 0 => .error (.tooDeep ⟨true⟩)
      | room + 1 =>
        match skipBlanks rest with
        | '}' :: rest => .ok (.object [], rest)
        | rest => members fuel room [] rest
    | '[' :: rest =>
      match room with
      | 0 => .error (.tooDeep ⟨false⟩)
      | room + 1 =>
        match skipBlanks rest with
        | ']' :: rest => .ok (.array [], rest)
        | rest => items fuel room [] rest
    | 'n' :: 'u' :: 'l' :: 'l' :: rest => .ok (.null, rest)
    | 't' :: 'r' :: 'u' :: 'e' :: rest => .ok (.bool true, rest)
    | 'f' :: 'a' :: 'l' :: 's' :: 'e' :: rest => .ok (.bool false, rest)
    | 'N' :: 'a' :: 'N' :: rest => .ok (.real (0.0 / 0.0), rest)
    | 'I' :: 'n' :: 'f' :: 'i' :: 'n' :: 'i' :: 't' :: 'y' :: rest =>
      .ok (.real (Number.ofWord false Number.infinityWord), rest)
    | '-' :: 'I' :: 'n' :: 'f' :: 'i' :: 'n' :: 'i' :: 't' :: 'y' :: rest =>
      .ok (.real (Number.ofWord true Number.infinityWord), rest)
    | cs => number cs

/-- Reads the items of an array, from where an item is due; those read so far are in `read`, the
last one first. -/
def items : (fuel room : Nat) → (read : List Value) → List Char →
    Except Stop (Value × List Char)
  | 0, _, _, cs => .error (.complaint .noValue cs.length)
  | fuel + 1, room, read, cs =>
    match value fuel room cs with
    | .error e => .error e
    | .ok (v, rest) =>
      match skipBlanks rest with
      | ']' :: rest => .ok (.array (v :: read).reverse, rest)
      | ',' :: rest => items fuel room (v :: read) (skipBlanks rest)
      | rest => .error (.complaint .noComma rest.length)

/-- Reads the members of an object, from where a name is due; those read so far are in `read`, the
last one first. -/
def members : (fuel room : Nat) → (read : List (String × Value)) → List Char →
    Except Stop (Value × List Char)
  | 0, _, _, cs => .error (.complaint .noName cs.length)
  | fuel + 1, room, read, cs =>
    match cs with
    | '"' :: rest =>
      match string cs.length cs.length [] rest with
      | .error e => .error e
      | .ok (name, rest) =>
        match skipBlanks rest with
        | ':' :: rest =>
          match value fuel room (skipBlanks rest) with
          | .error e => .error e
          | .ok (v, rest) =>
            let read := (String.ofList name, v) :: read
            match skipBlanks rest with
            | '}' :: rest => .ok (.object (Dictionary.ofList read.reverse), rest)
            | ',' :: rest => members fuel room read (skipBlanks rest)
            | rest => .error (.complaint .noComma rest.length)
        | rest => .error (.complaint .noColon rest.length)
    | cs => .error (.complaint .noName cs.length)

end

/-- Why a text is no JSON value: a complaint with its place, a number of too many digits, or too
many levels. -/
inductive ParseError where
  | malformed (what : Complaint) (line column offset : Nat)
  | tooManyDigits (e : Number.TooManyDigits)
  | tooDeep (e : TooDeep)
  deriving Repr, DecidableEq

/-- The text shown for a text that is no JSON value. -/
def ParseError.message : ParseError → String
  | .malformed what line column offset =>
    what.message ++ ": line " ++ toString line ++ " column " ++ toString column ++ " (char "
      ++ toString offset ++ ")"
  | .tooManyDigits e => e.message
  | .tooDeep e => e.message

/-- A stop with its place in the text. -/
def Stop.inText (text : List Char) : Stop → ParseError
  | .complaint what left =>
    let before := text.take (text.length - left)
    let column := (before.reverse.takeWhile (· != '\n')).length + 1
    .malformed what (before.count '\n' + 1) column before.length
  | .tooManyDigits e => .tooManyDigits e
  | .tooDeep e => .tooDeep e

/-- Reads a text that is one value and nothing else. -/
def whole (room : Nat) (text : List Char) : Except Stop Value :=
  match text with
  | '\uFEFF' :: _ => .error (.complaint .byteOrderMark text.length)
  | _ =>
    match value (2 * text.length + 2) room (skipBlanks text) with
    | .error e => .error e
    | .ok (v, rest) =>
      match skipBlanks rest with
      | [] => .ok v
      | rest => .error (.complaint .extraData rest.length)

/-- The value of a text with room for so many levels. -/
def parseWithin (room : Nat) (text : List Char) : Except ParseError Value :=
  (whole room text).mapError (·.inText text)

/-- The value of a text of any depth: every level takes a character to open. -/
def parse (text : List Char) : Except ParseError Value :=
  parseWithin text.length text

end TagCloud.Json
