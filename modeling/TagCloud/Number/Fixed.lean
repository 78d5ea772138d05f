import TagCloud.Number.Binary64

/-!
# Fixed-point text

A size is written with a fixed number of decimal places. The text is that of the exact binary
value, rounded once, a half to the even neighbour; so a size that looks like a half may fall to
either side. A number below zero keeps its sign even when all its digits are zero.
-/

namespace TagCloud.Number

/-- `n` in decimal, padded with zeros at the front to at least `width` digits. -/
def padded (width : Nat) (n : Nat) : List Char :=
  let digits := Nat.toDigits 10 n
  List.replicate (width - digits.length) '0' ++ digits

/-- `scaled / 10 ^ places` in decimal: the point stands before the last `places` digits, and
without places there is no point. -/
def fixedDigits (places scaled : Nat) : List Char :=
  let digits := padded (places + 1) scaled
  if places = 0 then digits
  else
    digits.take (digits.length - places) ++ '.' :: digits.drop (digits.length - places)

/-- `num / den` with `places` decimal places. -/
def fixedFraction (places num den : Nat) : List Char :=
  fixedDigits places (roundHalfEven (num * Nat.pow 10 places) den)

/-- More places than any double has. -/
def exactPlaces : Nat := 1100

/-- The fraction of a double with `places` decimal places, of which those behind the last one that
a double can have are nothing. -/
def fixedPlaces (places num den : Nat) : List Char :=
  fixedFraction (min places exactPlaces) num den ++ List.replicate (places - exactPlaces) '0'

/-- A datum with `places` decimal places. -/
def Datum.fixed (places : Nat) : Datum → String
  | .finite negative significand exponent =>
    let (num, den) := dyadic significand exponent
    let text := fixedPlaces places num den
    String.ofList (if negative then '-' :: text else text)
  | .infinite negative => if negative then "-inf" else "inf"
  | .nan => "nan"

/-- A double with `places` decimal places. -/
def fixed (places : Nat) (x : Float) : String :=
  (Datum.ofFloat x).fixed places

end TagCloud.Number
