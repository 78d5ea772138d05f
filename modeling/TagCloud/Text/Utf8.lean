import TagCloud.Text.Hex

/-!
# UTF-8

Tag files are bytes and have to be UTF-8. The first byte of a character tells how many bytes follow
and in which interval the second one lies; the others are plain continuation bytes. Decoding stops
at the first place where that fails, and tells which bytes began a character that they do not
finish.
-/

namespace TagCloud.Text

/-- What is wrong with bytes that are no UTF-8. -/
inductive Utf8Fault where
  | startByte
  | continuationByte
  | endOfData
  deriving Repr, DecidableEq

/-- Bytes that are no UTF-8: the first of the offending bytes, its position, and how many of them
there are. -/
structure Utf8Error where
  fault : Utf8Fault
  byte : UInt8
  position : Nat
  size : Nat
  deriving Repr, DecidableEq

/-- The reason shown for a fault. -/
def Utf8Fault.message : Utf8Fault → String
  | .startByte => "invalid start byte"
  | .continuationByte => "invalid continuation byte"
  | .endOfData => "unexpected end of data"

/-- The text shown for bytes that are no UTF-8. -/
def Utf8Error.message (e : Utf8Error) : String :=
  let place :=
    if e.size ≤ 1 then
      "byte 0x" ++ String.ofList (hexDigits 2 e.byte.toNat) ++ " in position "
        ++ toString e.position
    else
      "bytes in position " ++ toString e.position ++ "-" ++ toString (e.position + e.size - 1)
  "'utf-8' codec can't decode " ++ place ++ ": " ++ e.fault.message

/-- What a first byte announces: its share of the code point, how many bytes follow, and the
interval of the second byte. -/
structure Lead where
  share : Nat
  following : Nat
  low : Nat
  high : Nat

/-- What a byte announces as the first one of a character. -/
def lead? (byte : UInt8) : Option Lead :=
  let b := byte.toNat
  if b < 0x80 then some ⟨b, 0, 0, 0⟩
  else if b < 0xC2 then none
  else if b < 0xE0 then some ⟨b - 0xC0, 1, 0x80, 0xBF⟩
  else if b = 0xE0 then some ⟨0, 2, 0xA0, 0xBF⟩
  else if b = 0xED then some ⟨0xD, 2, 0x80, 0x9F⟩
  else if b < 0xF0 then some ⟨b - 0xE0, 2, 0x80, 0xBF⟩
  else if b = 0xF0 then some ⟨0, 3, 0x90, 0xBF⟩
  else if b < 0xF4 then some ⟨b - 0xF0, 3, 0x80, 0xBF⟩
  else if b = 0xF4 then some ⟨4, 3, 0x80, 0x8F⟩
  else none

/-- Where the decoder stands inside a character: its first byte, how many bytes of it are read, the
code point so far, how many bytes are due, and the interval of the next one. -/
structure Partial where
  first : UInt8
  read : Nat
  share : Nat
  due : Nat
  low : Nat
  high : Nat

/-- Decodes bytes. `position` is that of the next byte, `within` says whether a character has begun,
and the characters so far are in `done`, the last one first. -/
def decodeFrom (position : Nat) (within : Option Partial) (done : List Char) :
    List UInt8 → Except Utf8Error (List Char)
  | [] =>
    match within with
    | none => .ok done.reverse
    | some p => .error ⟨.endOfData, p.first, position - p.read, p.read⟩
  | byte :: bytes =>
    match within with
    | none =>
      match lead? byte with
      | none => .error ⟨.startByte, byte, position, 1⟩
      | some lead =>
        if lead.following = 0 then
          decodeFrom (position + 1) none (Char.ofNat lead.share :: done) bytes
        else
          decodeFrom (position + 1)
            (some ⟨byte, 1, lead.share, lead.following, lead.low, lead.high⟩) done bytes
    | some p =>
      if p.low ≤ byte.toNat && byte.toNat ≤ p.high then
        let share := p.share * 64 + (byte.toNat - 0x80)
        if p.due = 1 then decodeFrom (position + 1) none (Char.ofNat share :: done) bytes
        else
          decodeFrom (position + 1) (some ⟨p.first, p.read + 1, share, p.due - 1, 0x80, 0xBF⟩)
            done bytes
      else .error ⟨.continuationByte, p.first, position - p.read, p.read⟩

/-- The characters of some bytes. -/
def decodeUtf8 (bytes : List UInt8) : Except Utf8Error (List Char) :=
  decodeFrom 0 none [] bytes

/-- The bytes of a text. -/
def encodeUtf8 (s : String) : List UInt8 :=
  s.toUTF8.toList

end TagCloud.Text
