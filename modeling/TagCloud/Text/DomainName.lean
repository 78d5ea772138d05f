import TagCloud.Text.Case
import TagCloud.Text.Normal
import TagCloud.Text.Numeric
import TagCloud.Text.Ranges

/-!
# Names of domains

A domain is named by labels with points between them, each of them in plain characters and neither
empty nor too long. A label with other characters is put into its normal form first; if that is not
plain, it is written in Punycode behind a mark that tells so. Some characters cannot stand in a
label, and letters that run from right to left do not go together with others.
-/

namespace TagCloud.Text.Punycode

/-!
## Punycode

The plain characters of a text come first, in their order, and a hyphen behind them. For each other
character, from the least to the greatest, a number tells how far it is from where the last one was
put, counted over all characters and all places. These numbers are written with the digit of the
lowest weight first, in a base that varies from digit to digit: a digit below its threshold is the
last one. The thresholds are moved by how large the numbers have been.
-/

/-- The threshold of the digit in a place. -/
def threshold (place bias : Nat) : Nat :=
  max 1 (min 26 (36 * (place + 1) - bias))

/-- The character of a digit. -/
def digit (n : Nat) : Char :=
  if n < 26 then Char.ofNat (97 + n) else Char.ofNat (22 + n)

/-- The digit that a character is. -/
def digit? (c : Char) : Option Nat :=
  if 'A' ≤ c && c ≤ 'Z' then some (c.toNat - 65)
  else if 'a' ≤ c && c ≤ 'z' then some (c.toNat - 97)
  else if '0' ≤ c && c ≤ '9' then some (c.toNat - 22)
  else none

/-- The digits of a number from a place on. -/
def digits (bias place n : Nat) : List Char :=
  let t := threshold place bias
  if n < t then [digit n]
  else digit (t + (n - t) % (36 - t)) :: digits bias (place + 1) ((n - t) / (36 - t))
termination_by n
decreasing_by
  have hpos : 1 ≤ threshold place bias := Nat.le_max_left ..
  exact Nat.lt_of_le_of_lt (Nat.div_le_self ..) (by omega)

/-- Divides a number until it is small, and counts how often. -/
def drawnIn (n times : Nat) : Nat × Nat :=
  if 455 < n then drawnIn (n / 35) (times + 1) else (n, times)
termination_by n
decreasing_by exact Nat.div_lt_self (by omega) (by omega)

/-- The bias behind a number, when there are so many characters. -/
def adapted (n : Nat) (first : Bool) (count : Nat) : Nat :=
  let n := n / if first then 700 else 2
  let (n, times) := drawnIn (n + n / count) 0
  36 * times + 36 * n / (n + 38)

/-! ### Writing -/

/-- How far writing has come: the digits so far from right to left, the distance from the place of
the last character, the bias, how many characters there are, and whether one has been put. -/
structure Writing where
  written : List Char
  distance : Nat
  bias : Nat
  count : Nat
  first : Bool

/-- Passes a character of a text on the way to all those of a number. -/
def Writing.pass (n : Nat) (w : Writing) (c : Char) : Writing :=
  if c.toNat < n then { w with distance := w.distance + 1 }
  else if c.toNat = n then
    ⟨(digits w.bias 0 w.distance).reverse ++ w.written, 0,
      adapted w.distance w.first (w.count + 1), w.count + 1, false⟩
  else w

/-- Puts the characters of some numbers, the last of which was below `start`. -/
def Writing.putAll (cs : List Char) (start : Nat) (w : Writing) : List Nat → List Char
  | [] => w.written.reverse
  | n :: ns =>
    let w := { w with distance := w.distance + (n - start) * (w.count + 1) }
    let w := cs.foldl (Writing.pass n) w
    Writing.putAll cs (n + 1) { w with distance := w.distance + 1 } ns

/-- A text in plain characters. -/
def encode (cs : List Char) : List Char :=
  let plain := cs.filter fun c => c.toNat < 128
  let numbers := ((cs.filter fun c => 128 ≤ c.toNat).map Char.toNat).eraseDups.mergeSort
  let behind := Writing.putAll cs 128 ⟨[], 0, 72, plain.length, true⟩ numbers
  if plain.isEmpty then behind else plain ++ '-' :: behind

/-! ### Reading -/

/-- Why digits are no characters. -/
inductive Flaw where
  | incomplete
  | noDigit (c : Char)
  | noChar (n : Nat)
  | loneHalf

/-- Reads a number from a place on, and gives back what follows it. -/
def readNumber (bias place weight sum : Nat) : List Char → Except Flaw (Nat × List Char)
  | [] => .error .incomplete
  | c :: cs =>
    match digit? c with
    | none => .error (.noDigit c)
    | some d =>
      let t := threshold place bias
      let sum := sum + d * weight
      if d < t then .ok (sum, cs) else readNumber bias (place + 1) (weight * (36 - t)) sum cs

/-- Puts the characters that digits tell of into a text. The next one is to be counted from a
character and a place. A `lenient` reading ends at the first number that cannot be read. -/
def insertAll (lenient : Bool) : (fuel : Nat) → (number place bias : Nat) → (first : Bool) →
    (cs digits : List Char) → Except Flaw (List Char)
  | 0, _, _, _, _, cs, _ => .ok cs
  | fuel + 1, number, place, bias, first, cs, ds =>
    if ds.isEmpty then .ok cs
    else
      match readNumber bias 0 1 0 ds with
      | .error e => if lenient then .ok cs else .error e
      | .ok (n, rest) =>
        let count := cs.length + 1
        let number := number + (place + n) / count
        let place := (place + n) % count
        if 0x10FFFF < number && !lenient then .error (.noChar number)
        else
          let number := if 0x10FFFF < number then 63 else number
          if 0xD800 ≤ number && number < 0xE000 then .error .loneHalf
          else
            insertAll lenient fuel number (place + 1) (adapted n first count) false
              (cs.take place ++ Char.ofNat number :: cs.drop place) rest

/-- The text of plain characters and of the digits behind them. -/
def decode (lenient : Bool) (plain digits : List Char) : Except Flaw (List Char) :=
  insertAll lenient (digits.length + 1) 128 0 72 true plain digits

end TagCloud.Text.Punycode

namespace TagCloud.Text

/-! ## Names of domains -/

/-- Why a text is no name of a domain, or a name of a domain no text. -/
inductive DomainFault where
  | size
  | longEnd
  | prohibited (c : Char)
  | mixed
  | loose
  | marked
  | punycode (flaw : Punycode.Flaw)
  | noRoundTrip (label again : List Char)
  | notPlain (label : List Char)

namespace DomainName

/-- What a label in Punycode begins with. -/
def mark : List Char := ['x', 'n', '-', '-']

/-- The characters that are dropped from labels. -/
def dropped : Ranges :=
  [ (0x00AD, 0x00AD), (0x034F, 0x034F), (0x1806, 0x1806), (0x180B, 0x180D), (0x200B, 0x200D),
    (0x2060, 0x2060), (0xFE00, 0xFE0F), (0xFEFF, 0xFEFF) ]

/-- The characters that cannot stand in labels, but for those at the end of each plane. -/
def prohibited : Ranges :=
  [ (0x0080, 0x00A0), (0x0340, 0x0341), (0x06DD, 0x06DD), (0x070F, 0x070F), (0x1680, 0x1680),
    (0x180E, 0x180E), (0x2000, 0x200F), (0x2028, 0x202F), (0x205F, 0x2063), (0x206A, 0x206F),
    (0x2FF0, 0x2FFB), (0x3000, 0x3000), (0xD800, 0xF8FF), (0xFDD0, 0xFDEF), (0xFEFF, 0xFEFF),
    (0xFFF9, 0xFFFD), (0x1D173, 0x1D17A), (0xE0001, 0xE0001), (0xE0020, 0xE007F),
    (0xF0000, 0x10FFFF) ]

/-- The letters that run from right to left. -/
def rightToLeft : Ranges :=
  [ (0x05BE, 0x05BE), (0x05C0, 0x05C0), (0x05C3, 0x05C3), (0x05D0, 0x05EA), (0x05F0, 0x05F4),
    (0x061B, 0x061B), (0x061F, 0x061F), (0x0621, 0x063A), (0x0640, 0x064A), (0x066D, 0x066F),
    (0x0671, 0x06D5), (0x06DD, 0x06DD), (0x06E5, 0x06E6), (0x06FA, 0x06FE), (0x0700, 0x070D),
    (0x0710, 0x0710), (0x0712, 0x072C), (0x0780, 0x07A5), (0x07B1, 0x07B1), (0x200F, 0x200F),
    (0xFB1D, 0xFB1D), (0xFB1F, 0xFB28), (0xFB2A, 0xFB36), (0xFB38, 0xFB3C), (0xFB3E, 0xFB3E),
    (0xFB40, 0xFB41), (0xFB43, 0xFB44), (0xFB46, 0xFBB1), (0xFBD3, 0xFD3D), (0xFD50, 0xFD8F),
    (0xFD92, 0xFDC7), (0xFDF0, 0xFDFC), (0xFE70, 0xFE74), (0xFE76, 0xFEFC) ]

/-- A character that cannot stand in a label. -/
def isProhibited (c : Char) : Bool :=
  prohibited.has c.toNat || c.toNat % 0x10000 ≥ 0xFFFE

/-- The blanks that are forms of the plain one. -/
def blanks : Ranges :=
  [(0x00A0, 0x00A0), (0x2000, 0x200A), (0x202F, 0x202F), (0x205F, 0x205F), (0x3000, 0x3000)]

/-- A letter that runs from right to left. -/
def isRightToLeft (c : Char) : Bool :=
  rightToLeft.has c.toNat

/-- A point between labels. -/
def isPoint (c : Char) : Bool :=
  c = '.' || c = '\u3002' || c = '\uFF0E' || c = '\uFF61'

/-- All characters are plain. -/
def isPlain (cs : List Char) : Bool :=
  cs.all fun c => c.toNat < 128

/-- Characters in small letters and in their normal form. A letter in a style of its own is a letter
without it before it is a small one. -/
def foldedForm (cs : List Char) : List Char :=
  normalForm (cs.flatMap folded)

/-- A label in its normal form. -/
def prepared (label : List Char) : Except DomainFault (List Char) := do
  let kept := (label.filter fun c => !dropped.has c.toNat).map fun c =>
    if blanks.has c.toNat then ' ' else c
  let label := foldedForm (foldedForm kept)
  if let some c := label.find? isProhibited then throw (.prohibited c)
  if label.any isRightToLeft then
    if label.any fun c => isLetter c && !isRightToLeft c then throw .mixed
    if !(label.head?.any isRightToLeft && label.getLast?.any isRightToLeft) then throw .loose
  return label

/-- A label that is neither empty nor too long. -/
def sized (label : List Char) : Except DomainFault (List Char) :=
  if 0 < label.length && label.length < 64 then .ok label else .error .size

/-- A label in plain characters. -/
def plainLabel (label : List Char) : Except DomainFault (List Char) := do
  if isPlain label then sized label
  else
    let label ← prepared label
    if isPlain label then sized label
    else if mark.isPrefixOf label then throw .marked
    else sized (mark ++ Punycode.encode label)

/-- A name in plain characters. -/
def encode (cs : List Char) : Except DomainFault (List Char) := do
  if isPlain cs then
    let labels := cs.splitOn '.'
    let _ ← labels.dropLast.mapM sized
    if 64 ≤ (labels.getLast?.getD []).length then throw .longEnd
    return cs
  else
    let labels := (cs.map fun c => if isPoint c then '.' else c).splitOn '.'
    let ended := labels.length ≠ 1 && labels.getLast? == some []
    let made ← (if ended then labels.dropLast else labels).mapM plainLabel
    return ['.'].intercalate made ++ if ended then ['.'] else []

/-- The label that plain characters stand for. -/
def meantLabel (label : List Char) : Except DomainFault (List Char) := do
  if !mark.isPrefixOf label then
    if isPlain label then return label else throw (.notPlain label)
  let behind := label.drop mark.length
  let last := (behind.reverse.takeWhile (· ≠ '-')).reverse
  let plain := behind.take (behind.length - last.length - 1)
  let plain := if last.length = behind.length then [] else plain
  if !isPlain behind then throw (.notPlain behind)
  let meant ← (Punycode.decode false plain last).mapError .punycode
  let again ← plainLabel meant
  if label.map Char.toLower ≠ again then throw (.noRoundTrip label again)
  return meant

/-- The name that plain characters stand for. -/
def decode (cs : List Char) : Except DomainFault (List Char) := do
  let labels := cs.splitOn '.'
  let ended := labels.getLast? == some []
  let made ← (if ended then labels.dropLast else labels).mapM meantLabel
  return ['.'].intercalate made ++ if ended then ['.'] else []

end DomainName

end TagCloud.Text
