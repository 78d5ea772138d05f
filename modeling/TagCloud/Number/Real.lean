import TagCloud.Number.Binary64
import TagCloud.Number.Integer
import TagCloud.Text.Hex

/-!
# Real numbers in text

A real number is written with digits of any script, single low lines between them, a point and an
exponent, of which only some digits are needed; or as one of the words for an infinity and for no
number. Blanks around it do not count.
-/

namespace TagCloud.Number

open TagCloud.Text

/-- The digits at the front, single low lines between them left out, and what follows them; nothing
when a low line has no digit on one side, and no digits when there are none. -/
def optionalDigits (cs : List Char) : Option (List Char × List Char) :=
  if cs.head?.any isDigit then digitGroup false cs else some ([], cs)

/-- The sign at the front of a text, and what follows it. -/
def signOf : List Char → Bool × List Char
  | '-' :: cs => (true, cs)
  | '+' :: cs => (false, cs)
  | cs => (false, cs)

/-- The exponent that a text consists of; none is no shift. -/
def exponentOf? (cs : List Char) : Option Int :=
  match cs with
  | [] => some 0
  | c :: cs =>
    if c = 'e' || c = 'E' then
      let (negative, cs) := signOf cs
      match digitGroup false cs with
      | some (digits, []) =>
        some (if negative then -Int.ofNat (number digits) else Int.ofNat (number digits))
      | _ => none
    else none

/-- The number that a text without a sign spells. -/
def unsignedReal? (negative : Bool) (cs : List Char) : Option Float :=
  let word := String.ofList (cs.map Char.toLower)
  if word = "inf" || word = "infinity" then some (ofWord negative infinityWord)
  else if word = "nan" then some (0.0 / 0.0)
  else do
    let (whole, rest) ← optionalDigits cs
    let (fraction, rest) ←
      match rest with
      | '.' :: rest => optionalDigits rest
      | rest => some ([], rest)
    if whole.isEmpty && fraction.isEmpty then none
    else
      let shift ← exponentOf? rest
      return ofDecimal negative (number (whole ++ fraction)) (shift - Int.ofNat fraction.length)

/-- The number that a text spells. -/
def readReal? (text : String) : Option Float :=
  let cs := ((text.toList.dropWhile isPadding).reverse.dropWhile isPadding).reverse
  let (negative, body) := signOf cs
  unsignedReal? negative body

/-!
## Whole numbers in other bases

A whole number may be written in any base up to that of ten digits and all letters. In the bases
two, eight and sixteen a mark may stand in front of the digits; without a base the mark tells it,
and a number without a mark is decimal and has no zeros in front.
-/

/-- The value of a digit or a letter below a base. -/
def digitBelow? (base : Nat) (c : Char) : Option Nat :=
  let n? :=
    if c.isLower then some (c.toNat - 87) else if c.isUpper then some (c.toNat - 55) else digit? c
  n?.bind fun n => if n < base then some n else none

/-- The digits in a base that a text consists of, single low lines between them left out. -/
def basedDigits? (base : Nat) (afterDigit : Bool) : List Char → Option (List Nat)
  | [] => if afterDigit then some [] else none
  | c :: cs =>
    match digitBelow? base c with
    | some n => (basedDigits? base true cs).map (n :: ·)
    | none => if afterDigit && c = '_' then basedDigits? base false cs else none

/-- The base that a mark stands for. -/
def markedBase? (c : Char) : Option Nat :=
  if c = 'x' || c = 'X' then some 16 else if c = 'o' || c = 'O' then some 8
  else if c = 'b' || c = 'B' then some 2 else none

/-- The mark of a base taken off the front of a text: the base, and what follows. -/
def behindMark (base : Nat) (cs : List Char) : Nat × List Char :=
  match cs with
  | '0' :: c :: rest =>
    match markedBase? c with
    | some b =>
      if base = 0 || base = b then (b, if rest.head? = some '_' then rest.drop 1 else rest)
      else (base, cs)
    | none => (base, cs)
  | cs => (base, cs)

/-- The whole number that a text is in a base, which is nothing or between two and thirty-six. -/
def readBased? (base : Int) (text : String) : Option Int := do
  if base ≠ 0 && (base < 2 || 36 < base) then none
  let cs := ((text.toList.dropWhile isPadding).reverse.dropWhile isPadding).reverse
  let (negative, body) := signOf cs
  let (b, body) := behindMark base.toNat body
  let digits ← basedDigits? (if b = 0 then 10 else b) false body
  let n := digits.foldl (fun n d => n * (if b = 0 then 10 else b) + d) 0
  if b = 0 && digits.head? = some 0 && n ≠ 0 then none
  if ! [2, 4, 8, 16, 32].contains b && digitLimit < digits.length then none
  return if negative then -Int.ofNat n else Int.ofNat n

/-!
## Real numbers in hexadecimal digits

A double is written exactly as one digit, thirteen hexadecimal places and a power of two. A text is
read back in a freer form: any number of digits before and behind the point, with or without the
mark in front and the power behind, or one of the words for an infinity and for no number.
-/

/-- A finite number without its sign. -/
def unsignedHex (significand : Nat) (exponent : Int) : List Char :=
  let unit := Nat.pow 2 52
  let power := if significand = 0 then 0 else exponent + 52
  let body :=
    if significand = 0 then ['0'] else hexDigits 13 (significand % unit)
  '0' :: 'x' :: hexDigit (significand / unit) :: '.' :: body
    ++ 'p' :: (if power < 0 then '-' else '+') :: Nat.toDigits 10 power.natAbs

/-- A double in hexadecimal digits. -/
def hexText (x : Float) : List Char :=
  match Datum.ofFloat x with
  | .finite negative significand exponent =>
    (if negative then ['-'] else []) ++ unsignedHex significand exponent
  | .infinite negative => if negative then "-inf".toList else "inf".toList
  | .nan => "nan".toList

/-- The power of two that a text consists of; none is no shift. -/
def powerOf? (cs : List Char) : Option Int :=
  match cs with
  | [] => some 0
  | c :: cs =>
    if c = 'p' || c = 'P' then
      let (negative, digits) := signOf cs
      if digits.isEmpty || !digits.all Char.isDigit then none
      else
        let n := Int.ofNat (number digits)
        some (if negative then -n else n)
    else none

/-- `± significand * 2 ^ exponent` as the nearest double, which is an infinity beyond the
greatest. -/
def ofDyadic (negative : Bool) (significand : Nat) (exponent : Int) : Float :=
  let top := Int.ofNat significand.log2 + exponent
  if significand = 0 || top < -1100 then ofWord negative 0
  else if 1100 < top then ofWord negative infinityWord
  else
    let (num, den) := dyadic significand exponent
    ofFraction negative num den

/-- The number that a text in hexadecimal digits spells. -/
def readHex? (text : String) : Option Float := do
  let cs := ((text.toList.dropWhile isPadding).reverse.dropWhile isPadding).reverse
  let (negative, body) := signOf cs
  let word := String.ofList (body.map Char.toLower)
  if word = "inf" || word = "infinity" then return ofWord negative infinityWord
  if word = "nan" then return 0.0 / 0.0
  let body :=
    match body with
    | '0' :: 'x' :: rest | '0' :: 'X' :: rest => rest
    | body => body
  let isHex (c : Char) := (hexDigit? c).isSome
  let whole := body.takeWhile isHex
  let rest := body.drop whole.length
  let fraction := if rest.head? = some '.' then (rest.drop 1).takeWhile isHex else []
  let rest := if rest.head? = some '.' then rest.drop (1 + fraction.length) else rest
  if whole.isEmpty && fraction.isEmpty then none
  let significand ← hexNumber? (whole ++ fraction)
  let power ← powerOf? rest
  return ofDyadic negative significand (power - 4 * Int.ofNat fraction.length)

end TagCloud.Number
