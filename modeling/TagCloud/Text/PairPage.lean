import TagCloud.Text.Chart
import TagCloud.Text.Units

/-!
# Pages of pairs

An encoding of a script with thousands of characters has one byte for the plain characters, and two
for those of a chart. Some have more bytes for what the chart does not have, or make syllables of
their letters.

A first byte that has no second one is incomplete. Two bytes without a character are a fault of the
first of them, and the second one is read again.
-/

namespace TagCloud.Text

/-!
## Syllables of Korean

A syllable of Korean is made of two letters or of three: a consonant, a vowel, and most often
another consonant. The syllables are numbered in the order of their letters, and so are the letters.
-/

/-- The letters of a syllable by their places among the first, the second and the third ones; the
first of the third ones is that there is none. -/
structure Syllable where
  initial : Nat
  vowel : Nat
  final : Nat
  deriving Repr, DecidableEq

namespace Syllable

/-- The consonants that a syllable begins with. -/
def initials : List Char :=
  "ㄱㄲㄴㄷㄸㄹㅁㅂㅃㅅㅆㅇㅈㅉㅊㅋㅌㅍㅎ".toList

/-- The vowels. -/
def vowels : List Char :=
  "ㅏㅐㅑㅒㅓㅔㅕㅖㅗㅘㅙㅚㅛㅜㅝㅞㅟㅠㅡㅢㅣ".toList

/-- The consonants that a syllable ends with. -/
def finals : List Char :=
  "ㄱㄲㄳㄴㄵㄶㄷㄹㄺㄻㄼㄽㄾㄿㅀㅁㅂㅄㅅㅆㅇㅈㅊㅋㅌㅍㅎ".toList

/-- The character of a syllable. -/
def char (s : Syllable) : Char :=
  Char.ofNat (0xAC00 + (s.initial * 21 + s.vowel) * 28 + s.final)

/-- The syllable of a character. -/
def ofChar? (c : Char) : Option Syllable :=
  let n := c.toNat - 0xAC00
  if c.toNat < 0xAC00 || 0xD7A4 ≤ c.toNat then none
  else some ⟨n / 588, n / 28 % 21, n % 28⟩

end Syllable

/-! ## Pages -/

/-- What an encoding has besides the cells of its chart: nothing, the cells of another chart behind
a mark, all other characters in four bytes, other syllables made up of four pairs, or all syllables
in two bytes with five bits for a letter. -/
inductive Longer where
  | nothing
  | marked (mark : Nat) (stretches : List Stretch)
  | fours
  | madeUp
  | lettered
  deriving Repr, DecidableEq

/-- An encoding with one byte or two for most of its characters: its name, its other names, the
bytes that stand alone for what is not plain, those that have another one behind them, and where
the cells of the chart are. -/
structure PairPage where
  name : String
  otherNames : List String
  singles : List Stretch
  leads : List (Nat × Nat)
  zones : List Zone
  stretches : List Stretch
  longer : Longer
  deriving Repr, DecidableEq

namespace PairPage

/-! ### Writing -/

/-- The two bytes of a cell. -/
def pairAt? (p : PairPage) (cell : Nat) : Option (List UInt8) :=
  p.zones.findSome? fun z => z.bytes? cell

/-- The two bytes of a character that stands in some stretches. -/
def pairIn? (p : PairPage) (stretches : List Stretch) (c : Char) : Option (List UInt8) :=
  stretches.findSome? fun s => (s.cellOf? c).bind p.pairAt?

/-- How many characters below a number have neither one byte nor two. -/
def countLeft (p : PairPage) (n : Nat) : Nat :=
  let halves := min 0x800 (n - 0xD800)
  p.stretches.foldl (fun left s => left - s.countBelow n) (n - 0x80 - halves)

/-- The place of the first character of more than sixteen bits among those of four bytes. -/
def wideStart : Nat := 189000

/-- The four bytes of a place. -/
def fourBytes (n : Nat) : List UInt8 :=
  [0x81 + n / 12600, 0x30 + n / 1260 % 10, 0x81 + n / 10 % 126, 0x30 + n % 10].map UInt8.ofNat

/-- The byte of a letter in a syllable that is made up. -/
def letterByte (letter : Char) : UInt8 :=
  UInt8.ofNat (0xA1 + (letter.toNat - 'ㄱ'.toNat))

/-- The byte that takes the place of a letter. -/
def noLetter : UInt8 := 0xD4

/-- The four pairs of a syllable. -/
def madeUpBytes (s : Syllable) : List UInt8 :=
  let letter (letters : List Char) (n : Nat) := (letters[n]?).elim noLetter letterByte
  let last := if s.final = 0 then noLetter else letter Syllable.finals (s.final - 1)
  [noLetter, letter Syllable.initials s.initial, letter Syllable.vowels s.vowel, last].flatMap
    fun b => [0xA4, b]

/-- The bits of no letter, and of the letters, where a letter may be the first, the second and the
third one of a syllable. -/
def initialBits : List Nat := (List.range 20).map (· + 1)

@[inherit_doc initialBits]
def vowelBits : List Nat :=
  [2, 3, 4, 5, 6, 7, 10, 11, 12, 13, 14, 15, 18, 19, 20, 21, 22, 23, 26, 27, 28, 29]

@[inherit_doc initialBits]
def finalBits : List Nat :=
  (List.range 30).drop 1 |>.filter (· ≠ 18)

/-- The two bytes of letters, each of which is told by its place behind no letter. -/
def letteredBytes (initial vowel final : Nat) : List UInt8 :=
  let n := 0x8000 + initialBits.getD initial 0 * 0x400 + vowelBits.getD vowel 0 * 0x20
    + finalBits.getD final 0
  [UInt8.ofNat (n / 256), UInt8.ofNat n]

/-- The two bytes of a syllable or of a letter alone. -/
def lettered? (c : Char) : Option (List UInt8) :=
  let syllable := (Syllable.ofChar? c).map fun s =>
    letteredBytes (s.initial + 1) (s.vowel + 1) s.final
  let initial := (Syllable.initials.idxOf? c).map fun n => letteredBytes (n + 1) 0 0
  let vowel := (Syllable.vowels.idxOf? c).map fun n => letteredBytes 0 (n + 1) 0
  let final := (Syllable.finals.idxOf? c).map fun n => letteredBytes 0 0 (n + 1)
  ((syllable.or initial).or vowel).or final

/-- The bytes of a character that the chart does not have. -/
def longerOf? (p : PairPage) (c : Char) : Option (List UInt8) :=
  match p.longer with
  | .nothing => none
  | .marked mark stretches => (p.pairIn? stretches c).map (UInt8.ofNat mark :: ·)
  | .fours =>
    some (fourBytes (if c.toNat < 0x10000 then p.countLeft c.toNat
      else wideStart + (c.toNat - 0x10000)))
  | .madeUp => (Syllable.ofChar? c).map madeUpBytes
  | .lettered => lettered? c

/-- The bytes of a character, if it has some. -/
def bytesOf? (p : PairPage) (c : Char) : Option (List UInt8) :=
  if c.toNat < 0x80 then some [UInt8.ofNat c.toNat]
  else
    let single := (p.singles.findSome? fun s => s.cellOf? c).map fun n => [UInt8.ofNat n]
    (single.or (p.pairIn? p.stretches c)).or (p.longerOf? c)

/-! ### Reading -/

/-- What is at the front of bytes: a character, and how many of them it has, or how many bytes are
none for some reason. -/
abbrev Front := Except (Nat × String) (Char × Nat)

/-- Bytes with no more behind them of which at least one is missing. -/
def incomplete (bs : List Nat) : Front :=
  .error (bs.length, "incomplete multibyte sequence")

/-- A character of so many bytes, if there is one. -/
def found (size : Nat) (c : Option Char) : Front :=
  match c with
  | some c => .ok (c, size)
  | none => .error (1, "illegal multibyte sequence")

/-- The character of two bytes in some stretches. -/
def charIn? (p : PairPage) (stretches : List Stretch) (lead trail : Nat) : Option Char :=
  (p.zones.findSome? fun z => z.cell? lead trail).bind fun cell =>
    stretches.findSome? fun s => s.charAt? cell

/-- A number lies between two others. -/
def isBetween (low high n : Nat) : Bool :=
  low ≤ n && n ≤ high

/-- The character of four bytes. -/
def charOfFour? (p : PairPage) (a b c d : Nat) : Option Char :=
  let place := (((a - 0x81) * 10 + (b - 0x30)) * 126 + (c - 0x81)) * 10 + (d - 0x30)
  if !(isBetween 0x81 0xFE a && isBetween 0x81 0xFE c && isBetween 0x30 0x39 d) then none
  else if place < p.countLeft 0x10000 then
    some (Char.ofNat (least (fun n => place < p.countLeft (n + 1)) 0x80 16))
  else if isBetween wideStart (wideStart + 0xFFFFF) place then
    some (Char.ofNat (0x10000 + (place - wideStart)))
  else none

/-- The character of four pairs that make up a syllable. -/
def charOfPairs? (bs : List Nat) : Option Char := do
  let place? (letters : List Char) (b : Nat) := letters.findIdx? fun c => (letterByte c).toNat = b
  let [0xA4, _, 0xA4, a, 0xA4, b, 0xA4, c] := bs | none
  let initial ← place? Syllable.initials a
  let vowel ← place? Syllable.vowels b
  let final ← if c = noLetter.toNat then some 0 else (place? Syllable.finals c).map (· + 1)
  some (Syllable.mk initial vowel final).char

/-- The character of two bytes with five bits for a letter. Letters of which there is no first one
and no second one are the third ones, and where there is none at all there is a blank. -/
def charOfLetters? (lead trail : Nat) : Option Char := do
  let n := lead * 256 + trail
  let initial ← initialBits.idxOf? (n / 0x400 % 0x20)
  let vowel ← vowelBits.idxOf? (n / 0x20 % 0x20)
  let final ← finalBits.idxOf? (n % 0x20)
  match initial, vowel, final with
  | 0, 0, 0 => some '\u3000'
  | 0, 0, final + 1 => Syllable.finals[final]?
  | 0, vowel + 1, 0 => Syllable.vowels[vowel]?
  | initial + 1, 0, 0 => Syllable.initials[initial]?
  | initial + 1, vowel + 1, final => some (Syllable.mk initial vowel final).char
  | _, _, _ => none

/-- What is at the front of bytes of which the first two are no cell of the chart as a matter of
course. -/
def longerFront? (p : PairPage) (lead trail : Nat) (bs : List Nat) : Option Front :=
  match p.longer with
  | .marked mark stretches =>
    if lead ≠ mark then none
    else
      some (match bs with
      | _ :: a :: b :: _ => found 3 (p.charIn? stretches a b)
      | _ => incomplete bs)
  | .fours =>
    if !isBetween 0x30 0x39 trail then none
    else
      some (match bs.take 4 with
      | [a, b, c, d] => found 4 (p.charOfFour? a b c d)
      | _ => incomplete bs)
  | .madeUp =>
    if lead ≠ 0xA4 || trail ≠ noLetter.toNat then none
    else some (if bs.length < 8 then incomplete bs else found 8 (charOfPairs? bs))
  | .lettered => if lead < 0xD8 then some (found 2 (charOfLetters? lead trail)) else none
  | .nothing => none

/-- What is at the front of bytes. No character has more than eight of them. -/
def front (p : PairPage) (lead : Nat) (rest : List Nat) : Front :=
  if lead < 0x80 then .ok (Char.ofNat lead, 1)
  else
    match p.singles.findSome? fun s => s.charAt? lead, rest with
    | some c, _ => .ok (c, 1)
    | none, [] =>
      if p.leads.any fun (low, high) => isBetween low high lead then incomplete [lead]
      else found 1 none
    | none, trail :: _ =>
      (p.longerFront? lead trail (lead :: rest)).getD (found 2 (p.charIn? p.stretches lead trail))

/-- Reads bytes from some place on, behind pieces that stand from right to left; so many bytes have
been read already. -/
def decodeFrom (p : PairPage) (done : List Piece) (place skip : Nat) : List UInt8 → List Piece
  | [] => done.reverse
  | b :: bs =>
    match skip with
    | skip + 1 => p.decodeFrom done (place + 1) skip bs
    | 0 =>
      match p.front b.toNat ((bs.take 7).map UInt8.toNat) with
      | .ok (c, size) => p.decodeFrom (.char c :: done) (place + 1) (size - 1) bs
      | .error (size, reason) =>
        p.decodeFrom (.bad place (place + size) reason :: done) (place + 1) (size - 1) bs

/-- The pieces of bytes. -/
def decode (p : PairPage) (bs : List UInt8) : List Piece :=
  p.decodeFrom [] 0 0 bs

end PairPage

end TagCloud.Text

namespace TagCloud.Text.PairPage

/-!
## The known pages of pairs

Each of the charts is behind a few encodings. Some have the cells in the rows of the chart, others
have put two of its rows into one.
-/

/-- The bytes that are not plain. -/
def upper : List (Nat × Nat) := [(0x80, 0xFF)]

/-- The bytes of the rows of a chart, and of the cells in a row. -/
def graphic : List (Nat × Nat) := [(0xA1, 0xFE)]

/-- Narrow letters of one of the Japanese syllabaries. -/
def narrowLetters (start : Nat) : Stretch :=
  .run start '｡' 63

/-- Signs that are written as those which stood in the place of theirs in another alphabet. -/
def currencySigns : List Stretch :=
  [.cells 0x5C "¥", .cells 0x7E "‾"]

/-- The rows of a chart, two in one, from some first byte on. -/
def doubleZone (firstLead lastLead firstCell : Nat) : Zone :=
  ⟨firstLead, lastLead, [(0x40, 0x7E), (0x80, 0xFC)], firstCell⟩

/-- The pages of Japanese. -/
def japanesePages : List PairPage :=
  [ ⟨"shift_jis", ["csshiftjis", "s_jis", "shiftjis", "sjis", "x_mac_japanese"],
      narrowLetters 0xA1 :: currencySigns, [(0x81, 0x9F), (0xE0, 0xEA)],
      [doubleZone 0x81 0x9F 0, doubleZone 0xE0 0xEA (62 * 94)], Chart.japanese, .nothing⟩,
    ⟨"cp932", ["932", "ms932", "ms_kanji", "mskanji"],
      [narrowLetters 0xA1, .cells 0x80 "\x80", .cells 0xA0 "\uf8f0", .run 0xFD '\uf8f1' 3],
      [(0x81, 0x9F), (0xE0, 0xFC)],
      [doubleZone 0x81 0x9F 0, doubleZone 0xE0 0xFC (62 * 94)],
      Chart.japaneseChanges ++ Chart.japanese ++ Chart.japaneseAdditions
        ++ [.run (94 * 94) '\ue000' 1880], .nothing⟩,
    ⟨"euc_jp", ["eucjp", "u_jis", "ujis"], currencySigns, upper,
      [⟨0xA1, 0xFE, graphic, 0⟩, ⟨0x8E, 0x8E, [(0xA1, 0xDF)], 94 * 94⟩],
      Chart.japanese ++ [narrowLetters (94 * 94)], .marked 0x8F Chart.rareJapanese⟩ ]

/-- The rows of Chinese with both of the areas that are wider. -/
def widerChineseZones : List Zone :=
  [ ⟨0xA1, 0xFE, graphic, 0⟩, ⟨0x81, 0xA0, [(0x40, 0x7E), (0x80, 0xFE)], 8836⟩,
    ⟨0xA1, 0xFE, [(0x40, 0x7E), (0x80, 0xA0)], 14916⟩ ]

/-- The pages of Chinese. -/
def chinesePages : List PairPage :=
  [ ⟨"gb2312",
      ["chinese", "csiso58gb231280", "euc_cn", "euccn", "eucgb2312_cn", "gb2312_1980", "gb2312_80",
        "iso_ir_58", "x_mac_simp_chinese"], [], upper,
      [⟨0xA1, 0xFE, graphic, 0⟩], Chart.chinese ++ Chart.olderChinese, .nothing⟩,
    ⟨"gbk", ["936", "cp936", "ms936"], [], upper, widerChineseZones,
      Chart.chinese ++ Chart.widerChinese, .nothing⟩,
    ⟨"gb18030", ["gb18030_2000"], [], upper, widerChineseZones,
      Chart.chinese ++ Chart.widerChinese ++ Chart.widestChinese, .fours⟩ ]

/-- The rows of traditional Chinese. -/
def traditionalZones : List Zone :=
  [⟨0xA1, 0xFE, [(0x40, 0x7E), (0xA1, 0xFE)], 0⟩]

/-- The pages of traditional Chinese. -/
def traditionalPages : List PairPage :=
  [ ⟨"big5", ["big5_tw", "csbig5", "x_mac_trad_chinese"], [], upper, traditionalZones,
      Chart.traditionalStrokes ++ Chart.traditional, .nothing⟩,
    ⟨"cp950", ["950", "ms950"], [], upper, traditionalZones,
      Chart.traditionalChanges ++ Chart.traditional ++ Chart.traditionalAdditions, .nothing⟩ ]

/-- The pages of Korean. -/
def koreanPages : List PairPage :=
  [ ⟨"euc_kr",
      ["euckr", "korean", "ks_c_5601", "ks_c_5601_1987", "ks_x_1001", "ksc5601", "ksx1001",
        "x_mac_korean"], [], upper, [⟨0xA1, 0xFE, graphic, 0⟩], Chart.korean, .madeUp⟩,
    ⟨"cp949", ["949", "ms949", "uhc"], [], upper,
      [ ⟨0xA1, 0xFE, graphic, 0⟩,
        ⟨0x81, 0xA0, [(0x41, 0x5A), (0x61, 0x7A), (0x81, 0xFE)], 8836⟩,
        ⟨0xA1, 0xFE, [(0x41, 0x5A), (0x61, 0x7A), (0x81, 0xA0)], 14532⟩ ],
      Chart.korean ++ Chart.widerKorean, .nothing⟩,
    ⟨"johab", ["cp1361", "ms1361"], [], upper,
      [⟨0xD9, 0xDE, [(0x31, 0x7E), (0x91, 0xFE)], 0⟩,
        ⟨0xE0, 0xF9, [(0x31, 0x7E), (0x91, 0xFE)], 41 * 94⟩], Chart.koreanOthers, .lettered⟩ ]

/-- All pages of pairs. -/
def all : List PairPage :=
  japanesePages ++ chinesePages ++ traditionalPages ++ koreanPages

end TagCloud.Text.PairPage
