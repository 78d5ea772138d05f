/-!
# Text in wide units

A text may come in units of two or of four bytes, with the high or the low byte first. In units of
two bytes a character beyond the first plane is a pair of surrogates; half of a pair stands for no
character, and the replacement character is put in its place. A text ends with a whole unit.

Where what is wrong with the bytes has to be told, they are read piece by piece instead.
-/

namespace TagCloud.Text

/-- The character of a code unit on its own. -/
def unitChar (n : Nat) : Char :=
  if 0xD800 ≤ n && n ≤ 0xDFFF then '\uFFFD' else Char.ofNat n

/-- The character of two code units, if they are the halves of a pair. -/
def pairChar? (high low : Nat) : Option Char :=
  if 0xD800 ≤ high && high ≤ 0xDBFF && 0xDC00 ≤ low && low ≤ 0xDFFF then
    some (Char.ofNat (0x10000 + (high - 0xD800) * 0x400 + (low - 0xDC00)))
  else none

/-- Which byte of a unit comes first. -/
inductive ByteOrder where
  | highFirst
  | lowFirst
  deriving Repr, DecidableEq

/-- The units of two bytes that some bytes make up; none if a byte is left over. -/
def units16? (order : ByteOrder) : List UInt8 → Option (List Nat)
  | [] => some []
  | [_] => none
  | a :: b :: bytes =>
    let unit :=
      match order with
      | .highFirst => a.toNat * 256 + b.toNat
      | .lowFirst => b.toNat * 256 + a.toNat
    (units16? order bytes).map (unit :: ·)

/-- The characters of units of two bytes. -/
def ofUnits16 : List Nat → List Char
  | [] => []
  | [unit] => [unitChar unit]
  | high :: low :: units =>
    match pairChar? high low with
    | some c => c :: ofUnits16 units
    | none => unitChar high :: ofUnits16 (low :: units)

/-- The characters of units that are each a pair of units of two bytes; none if a pair is not whole
or gives a number beyond the last character. -/
def ofUnits32? (order : ByteOrder) : List Nat → Option (List Char)
  | [] => some []
  | [_] => none
  | a :: b :: units =>
    let n :=
      match order with
      | .highFirst => a * 65536 + b
      | .lowFirst => b * 65536 + a
    if 0x10FFFF < n then none else (ofUnits32? order units).map (unitChar n :: ·)

/-- The text of bytes in units of two bytes. -/
def decode16? (order : ByteOrder) (bytes : List UInt8) : Option (List Char) :=
  (units16? order bytes).map ofUnits16

/-- The text of bytes in units of four bytes. -/
def decode32? (order : ByteOrder) (bytes : List UInt8) : Option (List Char) :=
  (units16? order bytes).bind (ofUnits32? order)

/-- What bytes are read as: a character, half of a pair, or a fault in the bytes between two
places. -/
inductive Piece where
  | char (c : Char)
  | loneHalf
  | bad (start stop : Nat) (reason : String)

end TagCloud.Text
