import TagCloud.Number.Complex
import TagCloud.Number.Real
import TagCloud.Template.Method.Coding

/-!
# The methods of numbers

A number is taken apart into a fraction of whole numbers, and it is written in bytes or in
hexadecimal digits and read from them. What is read does not depend on the number whose method it
is.
-/

namespace TagCloud.Template

namespace Numeric

/-- A fraction of two whole numbers. -/
def fraction (n d : Int) : Value :=
  .tuple [.whole n, .whole d]

/-- The text of an argument, or the usual one. -/
def textArgument (method what usual : String) (v : Option Value) : Except Fault String :=
  Coding.nameArgument method what usual v

/-- Whether the byte of the lowest weight comes first. -/
def lowFirst (order : String) : Except Fault Bool :=
  match order with
  | "little" => .ok true
  | "big" => .ok false
  | _ => .error (.method .byteOrder)

/-- A whole number in so many bytes. -/
def toBytes (n : Int) : List (Option Value) → Except Fault Value
  | [size, order, signed] => do
    let size ← (size.getD (.whole 1)).amount
    let order ← textArgument "to_bytes" "byteorder" "big" order
    let signed := !(signed.getD (.bool false)).isEmpty
    let lowFirst ← lowFirst order
    if size < 0 then throw (.method .negativeLength)
    Room.askBytes size.toNat
    if n < 0 && !signed then throw (.method .negativeBytes)
    let limit : Int := Nat.pow 256 size.toNat
    if signed && (n * 2 < -limit || limit ≤ n * 2) || !signed && limit ≤ n then
      throw (.method .longBytes)
    return .bytes (Encoding.unit size.toNat lowFirst (n % limit).toNat)
  | _ => .error .unsupported

/-- The bytes that an argument is or that its items are. -/
def bytesArgument (v : Value) : Except Fault (List UInt8) :=
  match v, v.text?, v.isWalkable with
  | .bytes bs, _, _ => .ok bs
  | _, none, true => do
    (← v.items).mapM fun v => do
      let n ← v.integer
      if n < 0 || 256 ≤ n then throw (.method .bytesRange)
      return UInt8.ofNat n.toNat
  | _, _, _ => .error (.method (.noBytes v.kind.name))

/-- The whole number that bytes are. -/
def ofBytes : List (Option Value) → Except Fault Value
  | [bytes, order, signed] => do
    let some v := bytes | throw .unsupported
    let order ← textArgument "from_bytes" "byteorder" "big" order
    let signed := !(signed.getD (.bool false)).isEmpty
    let lowFirst ← lowFirst order
    let bs ← bytesArgument v
    let n := Encoding.number lowFirst bs
    let limit := Nat.pow 256 bs.length
    return .whole (if signed && limit ≤ 2 * n then Int.ofNat n - Int.ofNat limit else n)
  | _ => .error .unsupported

/-- The number of binary digits of a whole number without its sign. -/
def bitLength (n : Int) : Nat :=
  if n = 0 then 0 else n.natAbs.log2 + 1

/-- The methods of whole numbers. -/
def wholeMethods : Methods Int Value :=
  [ Methods.plain "as_integer_ratio" fun n => fraction n 1,
    Methods.plain "bit_count" fun n =>
      .whole (Int.ofNat ((Nat.toDigits 2 n.natAbs).count '1')),
    Methods.plain "bit_length" fun n => .whole (Int.ofNat (bitLength n)),
    Methods.plain "conjugate" fun n => .whole n,
    ("to_bytes", ⟨.named 0 2 ["length", "byteorder", "signed"], toBytes⟩),
    ("from_bytes", ⟨.named 1 2 ["bytes", "byteorder", "signed"], fun _ vs => ofBytes vs⟩) ]

/-- A real number as a fraction of whole numbers. -/
def ratio (x : Float) : Except Fault Value :=
  match Number.Datum.ofFloat x with
  | .finite negative significand exponent =>
    let (num, den) := Number.dyadic significand exponent
    let common := Nat.gcd num den
    let num := Int.ofNat (num / common)
    .ok (fraction (if negative then -num else num) (Int.ofNat (den / common)))
  | .infinite _ => .error (.method .infiniteRatio)
  | .nan => .error (.method .noRatio)

/-- The real number that a text in hexadecimal digits spells. -/
def ofHex (v : Value) : Except Fault Value :=
  match v.text? with
  | none => .error (.method .textWanted)
  | some s =>
    match Number.readHex? s with
    | none => .error (.method .malformedReal)
    | some x =>
      if x.isInf && s.toList.any Char.isDigit then .error (.method .realRange) else .ok (.real x)

/-- The methods of real numbers. -/
def realMethods : Methods Float Value :=
  [ Methods.bare "as_integer_ratio" ratio, Methods.plain "conjugate" .real,
    Methods.plain "hex" fun x => .ofChars (Number.hexText x),
    Methods.plain "is_integer" fun x => .bool (x.isFinite && x.floor == x),
    Methods.single "fromhex" fun _ v => ofHex v ]

/-- The methods of complex numbers. -/
def complexMethods : Methods Number.Complex Value :=
  [ Methods.plain "conjugate" fun z => .complex z.re (-z.im) ]

end Numeric

end TagCloud.Template
