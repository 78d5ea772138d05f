import TagCloud.Text.Units

/-!
# UTF-7

Plain characters stand for themselves. All others are written in units of two bytes, whose bits
stand in sections of digits of six bits each, between a plus sign and the first character that is no
digit; a hyphen there belongs to the section. A plus sign with a hyphen behind it is a plus sign.

A section may end within a digit, but what is left over has to be no more than a few bits of zero,
and no first half of a pair of units may be left without the second one.
-/

namespace TagCloud.Text.Utf7

/-- The digits of six bits, in order. -/
def digits : String :=
  "ABCDEFGHIJKLMNOPQRSTUVWXYZabcdefghijklmnopqrstuvwxyz0123456789+/"

/-- The digit of some bits. -/
def digit (n : Nat) : Char :=
  digits.toList.getD (n % 64) 'A'

/-- The bits of a digit. -/
def digit? (c : Char) : Option Nat :=
  digits.toList.idxOf? c

/-- A character that stands for itself. -/
def isPlain (c : Char) : Bool :=
  (' ' ≤ c && c < '~' && c ≠ '+' && c ≠ '\\') || ['\t', '\n', '\r'].contains c

/-- The units of two bytes of a character. -/
def units (c : Char) : List Nat :=
  if c.toNat < 0x10000 then [c.toNat]
  else [0xD800 + (c.toNat - 0x10000) / 0x400, 0xDC00 + (c.toNat - 0x10000) % 0x400]

/-- Bits of a section that have not been written yet: their value, and how many there are. -/
structure Bits where
  value : Nat
  size : Nat

/-- What is written of some bits and a unit behind them, and the bits left over. -/
def Bits.withUnit (b : Bits) (unit : Nat) : List Char × Bits :=
  let value := b.value * 65536 + unit
  let size := b.size + 16
  let left := size % 6
  let count := size / 6
  ((List.range count).map fun i => digit (value / Nat.pow 2 (left + 6 * (count - 1 - i))),
    ⟨value % Nat.pow 2 left, left⟩)

/-- The last digit of a section, filled up with zeros. -/
def Bits.last (b : Bits) : List Char :=
  if b.size = 0 then [] else [digit (b.value * Nat.pow 2 (6 - b.size))]

/-- Writes characters behind others, which stand from right to left; `inside` are the bits that a
section has left over. -/
def encodeFrom (inside : Option Bits) (done : List Char) : List Char → List Char
  | [] =>
    match inside with
    | none => done.reverse
    | some b => ('-' :: (b.last ++ done)).reverse
  | c :: cs =>
    if isPlain c then
      match inside with
      | none => encodeFrom none (c :: done) cs
      | some b =>
        let done := b.last ++ done
        encodeFrom none (c :: if (digit? c).isSome || c = '-' then '-' :: done else done) cs
    else if c = '+' && inside.isNone then encodeFrom none ('-' :: '+' :: done) cs
    else
      let done := if inside.isNone then '+' :: done else done
      let (b, done) := (units c).foldl (fun (b, done) unit =>
        let (written, b) := Bits.withUnit b unit
        (b, written.reverse ++ done)) (inside.getD ⟨0, 0⟩, done)
      encodeFrom (some b) done cs

/-- A text in plain characters. -/
def encode (cs : List Char) : List Char :=
  encodeFrom none [] cs

/-- Where reading stands in a section: the place of its plus sign, the bits that make up no unit
yet, and the first half of a pair. -/
structure Section where
  start : Nat
  bits : Bits
  half : Option Nat

/-- Something in a section is left unfinished. -/
def Section.isUnfinished (s : Section) : Bool :=
  s.half.isSome || 6 ≤ s.bits.size || s.bits.value ≠ 0

/-- The piece of a unit behind the first half of a pair, and the half that it is itself. -/
def pieces (half : Option Nat) (unit : Nat) : List Piece × Option Nat :=
  let isFirst := 0xD800 ≤ unit && unit < 0xDC00
  let isSecond := 0xDC00 ≤ unit && unit < 0xE000
  match half with
  | some first =>
    if isSecond then
      ([.char (Char.ofNat (0x10000 + (first - 0xD800) * 0x400 + (unit - 0xDC00)))], none)
    else if isFirst then ([.loneHalf], some unit)
    else ([.loneHalf, .char (Char.ofNat unit)], none)
  | none =>
    if isFirst then ([], some unit)
    else ([if isSecond then .loneHalf else .char (Char.ofNat unit)], none)

/-- A section behind one more digit, and the pieces that it completes. -/
def Section.withDigit (s : Section) (n : Nat) : List Piece × Section :=
  let value := s.bits.value * 64 + n
  let size := s.bits.size + 6
  if size < 16 then ([], { s with bits := ⟨value, size⟩ })
  else
    let left := size - 16
    let (read, half) := pieces s.half (value / Nat.pow 2 left)
    (read, ⟨s.start, ⟨value % Nat.pow 2 left, left⟩, half⟩)

/-- What is wrong with a section that ends before a character which is no digit. -/
def Section.fault? (s : Section) : Option String :=
  if 6 ≤ s.bits.size then some "partial character in shift sequence"
  else if s.bits.value ≠ 0 then some "non-zero padding bits in shift sequence"
  else none

/-- Reads bytes, as characters, behind pieces that stand from right to left. The first byte stands
in some place, and so many bytes have been read already. -/
def decodeFrom (inside : Option Section) (done : List Piece) (place skip : Nat) :
    List Char → List Piece
  | [] =>
    match inside with
    | some s =>
      let done :=
        if s.isUnfinished then .bad s.start place "unterminated shift sequence" :: done else done
      done.reverse
    | none => done.reverse
  | c :: cs =>
    match skip with
    | skip + 1 => decodeFrom inside done (place + 1) skip cs
    | 0 =>
      match inside.bind fun s => (digit? c).map s.withDigit with
      | some (read, s) => decodeFrom (some s) (read.reverse ++ done) (place + 1) 0 cs
      | none =>
        let fault? := inside.bind fun s => s.fault?.map fun reason => (s.start, reason)
        match fault?.map fun (start, reason) => Piece.bad start (place + 1) reason with
        | some bad => decodeFrom none (bad :: done) (place + 1) 0 cs
        | none =>
          let lone := inside.any fun s => s.half.isSome && c.toNat < 128 && c ≠ '+'
          let done := if lone then .loneHalf :: done else done
          if inside.isSome && c = '-' then decodeFrom none done (place + 1) 0 cs
          else if c = '+' then
            match cs with
            | [] => decodeFrom (some ⟨place, ⟨0, 0⟩, none⟩) done (place + 1) 0 cs
            | d :: _ =>
              if d = '-' then decodeFrom none (.char '+' :: done) (place + 1) 1 cs
              else if (digit? d).isSome then
                decodeFrom (some ⟨place, ⟨0, 0⟩, none⟩) done (place + 1) 0 cs
              else
                decodeFrom none (.bad place (place + 2) "ill-formed sequence" :: done) (place + 1) 1
                  cs
          else if c.toNat < 128 then decodeFrom none (.char c :: done) (place + 1) 0 cs
          else
            decodeFrom none (.bad place (place + 1) "unexpected special character" :: done)
              (place + 1) 0 cs

/-- The pieces of bytes, which are given as characters. -/
def decode (cs : List Char) : List Piece :=
  decodeFrom none [] 0 0 cs

end TagCloud.Text.Utf7
