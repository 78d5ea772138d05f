import TagCloud.Text.PairPage

/-!
# Encodings that switch

In some encodings all bytes are plain, and what they mean depends on what stands before them. One of
them has a sign for two-byte characters and one for the end of them. In the others an escape names
the set of characters that the bytes behind it are from; one set may be kept ready, and single bytes
switch to it and back.
-/

namespace TagCloud.Text

/-! ## Groups of pairs -/

namespace Groups

/-- The other names of the encoding. -/
def otherNames : List String := ["hz_gb", "hz_gb_2312", "hzgb"]

/-- The cells of the chart in plain bytes. -/
def zone : Zone := ⟨0x21, 0x7E, [(0x21, 0x7E)], 0⟩

/-- The characters of the chart. -/
def stretches : List Stretch := Chart.chinese ++ Chart.olderChinese

/-- The two bytes of a character of the chart. -/
def pairOf? (c : Char) : Option (List UInt8) :=
  (stretches.findSome? fun s => s.cellOf? c).bind zone.bytes?

/-- The bytes of a character without what switches between them. -/
def bytesOf? (c : Char) : Option (List UInt8) :=
  if c.toNat < 0x80 then some [UInt8.ofNat c.toNat] else pairOf? c

/-- Writes characters inside a group or outside of one. The sign that begins a group is written
twice where it is a character. -/
def encodeFrom (inside : Bool) : List Char → List UInt8
  | [] => if inside then [0x7E, 0x7D] else []
  | c :: cs =>
    let isPlain := c.toNat < 0x80
    let switch := if isPlain = inside then [0x7E, if isPlain then 0x7D else 0x7B] else []
    let twice := if c = '~' then [0x7E] else []
    switch ++ (bytesOf? c).getD [] ++ twice ++ encodeFrom (!isPlain) cs

/-- What a sign means in front of some byte, inside a group or outside of one: a character or none,
and whether a group goes on. -/
def signed? (inside : Bool) (b : Nat) : Option (Option Char × Bool) :=
  match inside, b with
  | false, 0x7E => some (some '~', false)
  | false, 0x7B => some (none, true)
  | false, 0x0A => some (none, false)
  | true, 0x7D => some (none, false)
  | _, _ => none

/-- Reads bytes inside a group or outside of one, from some place on, behind pieces that stand from
right to left; so many bytes have been read already. -/
def decodeFrom (inside : Bool) (done : List Piece) (place skip : Nat) : List UInt8 → List Piece
  | [] => done.reverse
  | b :: bs =>
    let illegal : Piece := .bad place (place + 1) "illegal multibyte sequence"
    match skip, bs with
    | skip + 1, bs => decodeFrom inside done (place + 1) skip bs
    | 0, bs =>
      if 0x80 ≤ b then decodeFrom inside (illegal :: done) (place + 1) 0 bs
      else if !inside && b ≠ 0x7E then
        decodeFrom inside (.char (Char.ofNat b.toNat) :: done) (place + 1) 0 bs
      else
        match bs with
        | [] => (.bad place (place + 1) "incomplete multibyte sequence" :: done).reverse
        | t :: _ =>
          if b = 0x7E then
            match signed? inside t.toNat with
            | some (made, inside) =>
              decodeFrom inside (made.elim done fun c => .char c :: done) (place + 1) 1 bs
            | none => decodeFrom inside (illegal :: done) (place + 1) 0 bs
          else
            match (zone.cell? b.toNat t.toNat).bind fun cell =>
              stretches.findSome? fun s => s.charAt? cell with
            | some c => decodeFrom inside (.char c :: done) (place + 1) 1 bs
            | none => decodeFrom inside (illegal :: done) (place + 1) 0 bs

end Groups

/-! ## Sets that escapes name -/

/-- How a set of characters is used: at once, after a byte that switches to the set that is ready,
or for single characters behind an escape of their own. -/
inductive SetUse where
  | atOnce
  | ready
  | single
  deriving Repr, DecidableEq

/-- A set of characters: the letter of its escape, whether its characters have two bytes, how it is
used, and the characters. -/
structure CharSet where
  letter : Char
  isWide : Bool
  use : SetUse
  stretches : List Stretch
  deriving Repr, DecidableEq

namespace CharSet

/-- The plain characters. -/
def plain : CharSet := ⟨'B', false, .atOnce, [.run 0 '\x00' 0x80]⟩

/-- The number of bytes of a character. -/
def width (s : CharSet) : Nat :=
  if s.isWide then 2 else 1

/-- The bytes of a character. -/
def bytesOf? (s : CharSet) (c : Char) : Option (List UInt8) :=
  s.stretches.findSome? fun stretch => (stretch.cellOf? c).bind fun cell =>
    if s.isWide then Groups.zone.bytes? cell else some [UInt8.ofNat cell]

/-- The character of bytes. -/
def charOf? (s : CharSet) (bs : List Nat) : Option Char :=
  let cell := match bs with
    | [a, b] => Groups.zone.cell? a b
    | bs => bs.head?
  cell.bind fun cell => s.stretches.findSome? fun stretch => stretch.charAt? cell

/-- The escape of a set. A set of pairs that is not one of those of old has a sign for where it is
used. -/
def escape (s : CharSet) : List UInt8 :=
  let side := if s.use = .ready then ')' else '('
  let middle :=
    if !s.isWide then [side]
    else if s.letter = 'B' || s.letter = '@' then ['$'] else ['$', side]
  0x1B :: (middle ++ [s.letter]).map fun c => UInt8.ofNat c.toNat

end CharSet

/-- An encoding with escapes: its name, its other names, the sets that escapes name, whether bytes
switch to the set that is ready, and whether an escape may have another one before it. -/
structure SwitchPage where
  name : String
  otherNames : List String
  sets : List CharSet
  switches : Bool
  renews : Bool
  deriving Repr, DecidableEq

/-- The sets that are used at once, that are ready, and for single characters, whether the one that
is ready is used, and whether characters stand for themselves up to the end of an escape that is
none. -/
structure SwitchState where
  first : CharSet
  second : CharSet
  third : CharSet
  isSwitched : Bool
  isThrough : Bool

namespace SwitchPage

/-- An escape takes a single character from a set. -/
def hasSingles (p : SwitchPage) : Bool :=
  p.sets.any fun s => s.use = .single

/-- Nothing but plain characters. -/
def start : SwitchState := ⟨.plain, .plain, .plain, false, false⟩

/-! ### Writing -/

/-- The first set that has a character, and its bytes there. -/
def setOf? (p : SwitchPage) (c : Char) : Option (CharSet × List UInt8) :=
  if c.toNat < 0x80 then some (.plain, [UInt8.ofNat c.toNat])
  else
    p.sets.findSome? fun s =>
      if s.use = .single then none else (s.bytesOf? c).map fun bytes => (s, bytes)

/-- What has to be written before characters of a set. -/
def switch (s : CharSet) (state : SwitchState) : List UInt8 × SwitchState :=
  if s.use = .ready then
    ((if state.second = s then [] else s.escape) ++ (if state.isSwitched then [] else [0x0E]),
      { state with second := s, isSwitched := true })
  else
    let back : List UInt8 := if state.isSwitched then [0x0F] else []
    let escape := if state.first = s then [] else s.escape
    (if s = .plain then escape ++ back else back ++ escape,
      { state with first := s, isSwitched := false })

/-- Writes characters behind others, and goes back to plain characters. -/
def encodeFrom (p : SwitchPage) (state : SwitchState) : List Char → List UInt8
  | [] =>
    (if state.isSwitched then [0x0F] else [])
      ++ if state.first = .plain then [] else CharSet.plain.escape
  | c :: cs =>
    let (s, bytes) := (p.setOf? c).getD (.plain, [])
    let (before, state) := switch s state
    before ++ bytes ++ p.encodeFrom state cs

/-! ### Reading -/

/-- A byte is the last one of an escape. -/
def isEnd (b : Nat) : Bool :=
  (0x41 ≤ b && b ≤ 0x5A) || b = 0x40

/-- The number of bytes of an escape that begins so many bytes before those given: none if they do
not suffice, and zero if there is no end of it. -/
def escapeSize? (p : SwitchPage) (before skip : Nat) : List Nat → Option Nat
  | [] => if 16 ≤ before then some 0 else none
  | b :: bs =>
    if 16 ≤ before then some 0
    else
      match skip with
      | skip + 1 => p.escapeSize? (before + 1) skip bs
      | 0 =>
        if isEnd b then some (before + 1)
        else
          p.escapeSize? (before + 1)
            (if p.renews && b = 0x26 && bs.head? = some 0x40 then 2 else 0) bs

/-- The state behind an escape. -/
def escaped? (p : SwitchPage) (state : SwitchState) (escape : List Nat) : Option SwitchState :=
  let set? (isWide : Bool) (letter : Nat) :=
    if !isWide && letter = 0x42 then some .plain
    else p.sets.find? fun s => s.isWide = isWide && s.letter.toNat = letter
  match escape with
  | [_, 0x24, letter] => (set? true letter).map fun s => { state with first := s }
  | [_, 0x28, letter] => (set? false letter).map fun s => { state with first := s }
  | [_, 0x29, letter] => (set? false letter).map fun s => { state with second := s }
  | [_, 0x2E, letter] =>
    if p.hasSingles then (set? false letter).map fun s => { state with third := s } else none
  | [_, 0x24, 0x28, letter] => (set? true letter).map fun s => { state with first := s }
  | [_, 0x24, 0x29, letter] => (set? true letter).map fun s => { state with second := s }
  | [_, _, _, 0x1B, 0x24, 0x42] =>
    if p.renews then (set? true 0x42).map fun s => { state with first := s } else none
  | _ => none

/-- Reads bytes from some place on, behind pieces that stand from right to left; so many bytes have
been read already. -/
def decodeFrom (p : SwitchPage) (state : SwitchState) (done : List Piece) (place skip : Nat) :
    List UInt8 → List Piece
  | [] => done.reverse
  | b :: bs =>
    match skip with
    | skip + 1 => p.decodeFrom state done (place + 1) skip bs
    | 0 =>
      let self : Piece := .char (Char.ofNat b.toNat)
      let ahead := (bs.take 20).map UInt8.toNat
      let stop := place + 1 + bs.length
      let incomplete := (.bad place stop "incomplete multibyte sequence" :: done).reverse
      let illegal (size : Nat) : Piece := .bad place (place + size) "illegal multibyte sequence"
      if state.isThrough then
        p.decodeFrom { state with isThrough := !isEnd b.toNat } (self :: done) (place + 1) 0 bs
      else if b = 0x1B then
        match ahead with
        | [] => incomplete
        | next :: _ =>
          if [0x28, 0x29, 0x24, 0x2E, 0x26].contains next then
            match p.escapeSize? 1 0 ahead with
            | none => incomplete
            | some 0 => p.decodeFrom state (illegal 1 :: done) (place + 1) 0 bs
            | some (size + 1) =>
              match p.escaped? state (b.toNat :: ahead.take size) with
              | some state => p.decodeFrom state done (place + 1) size bs
              | none => p.decodeFrom state (illegal (size + 1) :: done) (place + 1) size bs
          else if next = 0x4E && p.hasSingles then
            match ahead with
            | _ :: c :: _ =>
              let made := (state.third.charOf? [c]).elim (illegal 3) fun c => .char c
              p.decodeFrom state (made :: done) (place + 1) 2 bs
            | _ => incomplete
          else p.decodeFrom { state with isThrough := true } (self :: done) (place + 1) 0 bs
      else if p.switches && (b = 0x0E || b = 0x0F) then
        p.decodeFrom { state with isSwitched := b = 0x0E } done (place + 1) 0 bs
      else if b = 0x0A then
        p.decodeFrom { state with isSwitched := false } (self :: done) (place + 1) 0 bs
      else
        let s := if state.isSwitched then state.second else state.first
        if b < 0x20 then p.decodeFrom state (self :: done) (place + 1) 0 bs
        else if 0x80 ≤ b then p.decodeFrom state (illegal 1 :: done) (place + 1) 0 bs
        else if s = .plain then p.decodeFrom state (self :: done) (place + 1) 0 bs
        else if ahead.length + 1 < s.width then incomplete
        else
          let found := (s.charOf? (b.toNat :: ahead.take (s.width - 1))).filter fun _ =>
            s.use ≠ .single
          let made := found.elim (illegal s.width) fun c => .char c
          p.decodeFrom state (made :: done) (place + 1) (s.width - 1) bs

/-! ### The known ones -/

/-- The sets of Japanese: the chart, the rare characters, the plain characters with other signs, the
narrow letters, and the chart as it was. -/
def chart : CharSet := ⟨'B', true, .atOnce, Chart.japanese⟩

@[inherit_doc chart]
def rareChart : CharSet := ⟨'D', true, .atOnce, Chart.rareJapanese⟩

@[inherit_doc chart]
def roman : CharSet := ⟨'J', false, .atOnce, PairPage.currencySigns ++ [.run 0x20 ' ' 0x60]⟩

@[inherit_doc chart]
def narrow : CharSet := ⟨'I', false, .atOnce, [PairPage.narrowLetters 0x21]⟩

@[inherit_doc chart]
def oldChart : CharSet := ⟨'@', true, .atOnce, Chart.japanese⟩

/-- The chart of Korean. -/
def korean (use : SetUse) : CharSet := ⟨'C', true, use, Chart.korean⟩

/-- Sets of single characters: letters of the west, and letters of Greek. -/
def singleSets : List CharSet :=
  [ ⟨'A', false, .single, [.run 0 '\x80' 0x80]⟩,
    ⟨'F', false, .single,
      [ .run 0 '\x80' 0x21, .run 0x80 '\x00' 0x80,
        .cells 0x21 ("‘’£��¦§¨©�«¬\xad�―°±²³΄΅Ά·ΈΉΊ»Ό½ΎΏΐΑΒΓΔΕΖΗΘΙΚΛΜΝΞΟΠΡ�ΣΤΥΦΧΨΩΪΫάέήίΰαβγδεζ"
          ++ "ηθικλμνξοπρςστυφχψωϊϋόύώ") ]⟩ ]

/-- All encodings with escapes. -/
def all : List SwitchPage :=
  [ ⟨"iso2022_jp", ["csiso2022jp", "iso2022jp", "iso_2022_jp"], [chart, roman, oldChart], false,
      true⟩,
    ⟨"iso2022_jp_1", ["iso2022jp_1", "iso_2022_jp_1"], [chart, rareChart, roman, oldChart], false,
      true⟩,
    ⟨"iso2022_jp_2", ["iso2022jp_2", "iso_2022_jp_2"],
      [chart, rareChart, korean .atOnce, ⟨'A', true, .atOnce, Groups.stretches⟩, roman, oldChart]
        ++ singleSets, false, true⟩,
    ⟨"iso2022_jp_ext", ["iso2022jp_ext", "iso_2022_jp_ext"],
      [chart, rareChart, roman, narrow, oldChart], false, true⟩,
    ⟨"iso2022_kr", ["csiso2022kr", "iso2022kr", "iso_2022_kr"], [korean .ready], true, false⟩ ]

end SwitchPage

end TagCloud.Text
