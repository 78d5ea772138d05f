import TagCloud.Text.Blank
import TagCloud.Text.Digit
import TagCloud.Text.Quoted

/-!
# Whole numbers in text

Counts, limits, thresholds and seeds are whole numbers written in the digits of any script. Their
length is bounded, because the time to read a number grows faster than its length: beyond the bound
nothing is read and the number of digits is reported. Leading zeros count.

A seed may be written more freely than a count: with blanks around it, with a sign and with single
low lines between its digits.
-/

namespace TagCloud.Number

open TagCloud.Text

/-- The greatest number of digits that a whole number is read from. -/
def digitLimit : Nat := 4300

/-- A whole number was written with more digits than are read. -/
structure TooManyDigits where
  count : Nat
  deriving Repr, DecidableEq

/-- The text shown for a number with too many digits. -/
def TooManyDigits.message (e : TooManyDigits) : String :=
  "Exceeds the limit (4300 digits) for integer string conversion: value has " ++ toString e.count
    ++ " digits; use sys.set_int_max_str_digits() to increase the limit"

/-- Reads a row of digits. -/
def readDigits (digits : List Char) : Except TooManyDigits Nat :=
  if digitLimit < digits.length then .error ⟨digits.length⟩ else .ok (number digits)

/-- Why a text is no whole number. -/
inductive IntegerError where
  | malformed (text : String)
  | tooManyDigits (e : TooManyDigits)
  deriving Repr, DecidableEq

/-- The text shown for a text that is no whole number; a long one is cut. -/
def IntegerError.message : IntegerError → String
  | .malformed text =>
    "invalid literal for int() with base 10: "
      ++ String.ofList ((quoted text).toList.take 200)
  | .tooManyDigits e => e.message

/-- A blank that may stand around a whole number: the four separators of ASCII may not. -/
def isPadding (c : Char) : Bool :=
  isBlank c && !(28 ≤ c.toNat && c.toNat ≤ 31)

/-- The digits at the front, single low lines between them left out, and what follows them; none
when no digit is there, or a low line is doubled or has no digit on one side. -/
def digitGroup (afterDigit : Bool) : List Char → Option (List Char × List Char)
  | [] => if afterDigit then some ([], []) else none
  | c :: cs =>
    if isDigit c then (digitGroup true cs).map fun (ds, rest) => (c :: ds, rest)
    else if !afterDigit then none
    else if c = '_' then digitGroup false cs
    else some ([], c :: cs)

/-- Reads a whole number with its sign. -/
def readInteger (text : String) : Except IntegerError Int :=
  let cs := ((text.toList.dropWhile isPadding).reverse.dropWhile isPadding).reverse
  let (negative, body) :=
    match cs with
    | '-' :: body => (true, body)
    | '+' :: body => (false, body)
    | body => (false, body)
  match digitGroup false body with
  | none => .error (.malformed text)
  | some (digits, rest) =>
    match readDigits digits with
    | .error e => .error (.tooManyDigits e)
    | .ok n =>
      if rest.isEmpty then .ok (if negative then -Int.ofNat n else Int.ofNat n)
      else .error (.malformed text)

end TagCloud.Number
