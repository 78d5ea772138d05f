import TagCloud.Text.Units
import TagCloud.Text.Utf8

/-!
# The encoding of JSON

JSON that comes as bytes does not say how it is encoded, but it shows. A byte order mark tells, and
without one the zeros among the first bytes do: the first characters of JSON are ASCII, so in wide
units the rest of each unit is zero.
-/

namespace TagCloud.Json

open TagCloud.Text

/-- How characters are put into bytes. -/
inductive Encoding where
  | bytes
  | pairs (order : ByteOrder)
  | quads (order : ByteOrder)
  deriving Repr, DecidableEq

/-- The encoding that zeros among the first bytes show. -/
def encodingByZeros : List UInt8 → Encoding
  | a :: b :: c :: d :: _ =>
    if a = 0 then if b = 0 then .quads .highFirst else .pairs .highFirst
    else if b = 0 then if c = 0 && d = 0 then .quads .lowFirst else .pairs .lowFirst
    else .bytes
  | [a, b] =>
    if a = 0 then .pairs .highFirst else if b = 0 then .pairs .lowFirst else .bytes
  | _ => .bytes

/-- The encoding of some bytes, and the bytes behind a byte order mark. -/
def encodingOf : List UInt8 → Encoding × List UInt8
  | 0x00 :: 0x00 :: 0xFE :: 0xFF :: bytes => (.quads .highFirst, bytes)
  | 0xFF :: 0xFE :: 0x00 :: 0x00 :: bytes => (.quads .lowFirst, bytes)
  | 0xFE :: 0xFF :: bytes => (.pairs .highFirst, bytes)
  | 0xFF :: 0xFE :: bytes => (.pairs .lowFirst, bytes)
  | 0xEF :: 0xBB :: 0xBF :: bytes => (.bytes, bytes)
  | bytes => (encodingByZeros bytes, bytes)

/-- The text of JSON that comes as bytes; none if they are no text in the encoding they show. -/
def decode? (bytes : List UInt8) : Option (List Char) :=
  let (encoding, bytes) := encodingOf bytes
  match encoding with
  | .bytes => (decodeUtf8 bytes).toOption
  | .pairs order => decode16? order bytes
  | .quads order => decode32? order bytes

end TagCloud.Json
