import TagCloud.Template.Method.Coding
import TagCloud.Template.Method.Text

/-!
# The methods of bytes

Bytes are searched, taken apart and reshaped as texts are, but only ASCII counts: the blanks, the
letters, the digits and the ends of lines are those of ASCII, and every other byte is just a byte.
To that end a byte is taken for a character that stands for it. The bytes that a method has to tell
apart stand for themselves, and the others for characters that are neither blanks nor ends of lines.
-/

namespace TagCloud.Template

namespace Octets

/-- The character that a byte stands for. -/
def char (isPlain : UInt8 → Bool) (b : UInt8) : Char :=
  Char.ofNat (if isPlain b then b.toNat else 256 + b.toNat)

/-- The byte that a character stands for. -/
def byte (c : Char) : UInt8 :=
  UInt8.ofNat (c.toNat % 256)

/-- A blank of ASCII. -/
def isBlank (b : UInt8) : Bool :=
  b == 32 || (9 ≤ b && b ≤ 13)

/-- A character of ASCII, but for those that are blanks elsewhere only. -/
def isPlain (b : UInt8) : Bool :=
  b < 128 && !(28 ≤ b && b ≤ 31)

/-- The end of a line or a part of one. -/
def isLineEnd (b : UInt8) : Bool :=
  b == 10 || b == 13

/-- Bytes as characters. -/
def chars (bs : List UInt8) : List Char :=
  bs.map (char isPlain)

/-- Characters as bytes. -/
def ofChars (cs : List Char) : Value :=
  .bytes (cs.map byte)

/-- The bytes that an argument has to be. -/
def bytes? (v : Value) : Except Fault (List UInt8) :=
  match v with
  | .bytes bs => .ok bs
  | v => .error (.bytesWanted v.kind.name)

/-- An argument as a text that methods of texts take. -/
def textOf (v : Value) : Except Fault Value := do
  return .ofChars (chars (← bytes? v))

/-- An argument that may be left out or be nothing. -/
def textOf? : Option Value → Except Fault (Option Value)
  | none => .ok none
  | some .null => .ok (some .null)
  | some v => (textOf v).map some

/-- The bytes that are searched for: some, or a single one by its number. -/
def part (v : Value) : Except Fault (List UInt8) :=
  match v, v.whole? with
  | .bytes bs, _ => .ok bs
  | _, some n => if n < 0 || 256 ≤ n then .error .byteRange else .ok [UInt8.ofNat n.toNat]
  | v, none =>
    .error (.method (.wanted "argument should be integer or bytes-like object"
      (Text.quoted v.kind.name)))

/-- A method that searches bytes. -/
def searching (rule : List Char → List Char → Window → Except Fault Value) :
    Method (List UInt8) Value :=
  ⟨.counted 1 3, fun
    | bs, [some v, start, stop] => do
      let w ← Value.window bs.length start stop
      rule (chars (← part v)) (chars bs) w
    | _, _ => .error .unsupported⟩

/-- A method that tells whether bytes begin or end with others. -/
def bordering (name : String) (atEnd : Bool) : Method (List UInt8) Value :=
  ⟨.counted 1 3, fun
    | bs, [some v, start, stop] => do
      let w ← Value.window bs.length start stop
      let holds (part : List UInt8) := w.borders atEnd (chars part) (chars bs)
      match v with
      | .tuple vs =>
        return .bool (← vs.foldlM (fun found v =>
          if found then pure true else return holds (← bytes? v)) false)
      | .bytes part => return .bool (holds part)
      | v =>
        throw (.method
          (.wanted (name ++ " first arg must be bytes or a tuple of bytes") v.kind.name))
    | _, _ => .error .unsupported⟩

/-- A method that makes rows of bytes of bytes. -/
def toRows (fromEnd : Bool) : Method (List UInt8) Value :=
  ⟨.named 0 2 ["sep", "maxsplit"], fun
    | bs, [separator, limit] => do
      let _ ← Division.limit? limit
      let separator ← textOf? separator
      return .list none ((← Division.split fromEnd (chars bs) [separator, limit]).map ofChars)
    | _, _ => .error .unsupported⟩

/-- A method of one argument that takes bytes apart in three. -/
def toParts (fromEnd : Bool) : Method (List UInt8) Value :=
  ⟨.one, fun
    | bs, [some v] => do
      return .tuple ((← Division.parts fromEnd (chars bs) (← textOf v)).map ofChars)
    | _, _ => .error .unsupported⟩

/-- A method that drops bytes at the ends. -/
def stripping (name : String) (left right : Bool) : Method (List UInt8) Value :=
  ⟨.row 0 1, fun
    | bs, [v] => do
      return ofChars (← Division.stripped name left right (chars bs) [← textOf? v])
    | _, _ => .error .unsupported⟩

/-- A method of one argument that drops bytes that others begin or end with. -/
def dropping (name : String) (atEnd : Bool) : Method (List UInt8) Value :=
  ⟨.one, fun
    | bs, [some v] => do return ofChars (← Division.without name atEnd (chars bs) (← textOf v))
    | _, _ => .error .unsupported⟩

/-- A method that puts bytes into a width. -/
def widening (name : String) (f : Nat → Char → List Char → List Char) : Method (List UInt8) Value :=
  ⟨.row 1 2, fun
    | bs, [some width, filler] => do
      let n ← width.amount
      let c ←
        match filler with
        | none => pure ' '
        | some (.bytes [b]) => pure (char isPlain b)
        | some v =>
          throw (.method (.wanted (name ++ "() argument 2 must be a byte string of length 1")
            v.argumentKind))
      Room.askBytes n.toNat
      return ofChars (f n.toNat c (chars bs))
    | _, _ => .error .unsupported⟩

/-- Bytes with others between them; the first of them stands in some place of a row. -/
def joinedFrom (separator : List UInt8) (place : Nat) : List Value → Except Fault (List UInt8)
  | [] => .ok []
  | v :: vs =>
    match v with
    | .bytes bs => do
      let rest ← joinedFrom separator (place + 1) vs
      return bs ++ if vs.isEmpty then rest else separator ++ rest
    | v =>
      .error (.method (.joinedBytes place v.kind.name))

/-- Bytes with each word as in a title. -/
def titled : (inside : Bool) → List Char → List Char
  | _, [] => []
  | inside, c :: cs => (if inside then c.toLower else c.toUpper) :: titled c.isAlpha cs

/-- Bytes whose words are as in a title. -/
def isTitled : (inside found : Bool) → List Char → Bool
  | _, found, [] => found
  | inside, found, c :: cs =>
    if c.isUpper then !inside && isTitled true true cs
    else if c.isLower then inside && isTitled true true cs
    else isTitled false found cs

/-- The changes of case, by the names of their methods. -/
def cases : List (String × (List Char → List Char)) :=
  [ ("lower", List.map Char.toLower), ("upper", List.map Char.toUpper),
    ("swapcase", List.map fun c => if c.isUpper then c.toLower else c.toUpper),
    ("title", titled false),
    ("capitalize", fun
      | [] => []
      | c :: cs => c.toUpper :: cs.map Char.toLower) ]

/-- The natures of bytes, by the names of their methods. -/
def natures : List (String × (List Char → Bool)) :=
  let throughout (is : Char → Bool) (cs : List Char) := !cs.isEmpty && cs.all is
  [ ("isalnum", throughout Char.isAlphanum), ("isalpha", throughout Char.isAlpha),
    ("isascii", fun cs => cs.all fun c => byte c < 128), ("isdigit", throughout Char.isDigit),
    ("islower", fun cs => cs.any Char.isLower && !cs.any Char.isUpper),
    ("isspace", throughout fun c => isBlank (byte c)), ("istitle", isTitled false false),
    ("isupper", fun cs => cs.any Char.isUpper && !cs.any Char.isLower) ]

/-- Hexadecimal digits in groups of so many bytes, counted from the right if the number is
positive. -/
def groups (size : Int) (texts : List (List Char)) : List (List Char) :=
  let n := size.natAbs
  if n = 0 then [texts.flatten]
  else
    let front := if 0 < size then texts.length % n else 0
    let rest := texts.drop front
    let groups := (List.range ((rest.length + n - 1) / n)).map fun i =>
      ((rest.drop (i * n)).take n).flatten
    if front = 0 then groups else (texts.take front).flatten :: groups

/-- Bytes in hexadecimal digits, with a character between groups of them. -/
def hexDigits (bs : List UInt8) : List (Option Value) → Except Fault Value
  | [separator, size] => do
    let texts := bs.map fun b => Text.hexDigits 2 b.toNat
    let separator? : Option (List Char) ←
      match separator with
      | none => pure none
      | some (.bytes sep) => pure (some (chars sep))
      | some v =>
        match v.text? with
        | some s => pure (some s.toList)
        | none => throw (.noLength v.kind.name)
    let size ← (size.getD (.whole 1)).within 32 .switchRange
    match separator? with
    | none => return .ofChars texts.flatten
    | some [c] =>
      if 128 ≤ c.toNat then throw (.method (.hexSeparator "ASCII"))
      return .ofChars ([c].intercalate (groups size texts))
    | some _ => throw (.method (.hexSeparator "length 1"))
  | _ => .error .unsupported

/-- The bytes that hexadecimal digits spell, two of them each, with blanks between them. So many
characters stand before. -/
def ofHex : (fuel : Nat) → (before : Nat) → List Char → Except Fault (List UInt8)
  | 0, before, _ => .error (.method (.noHexDigit before))
  | fuel + 1, before, cs =>
    let blanks := (cs.takeWhile fun c => isBlank (UInt8.ofNat c.toNat)).length
    let before := before + blanks
    match cs.drop blanks with
    | [] => .ok []
    | a :: cs =>
      match Text.hexNumber? [a], cs with
      | none, _ => .error (.method (.noHexDigit before))
      | some _, [] => .error (.method (.noHexDigit (before + 1)))
      | some high, b :: cs =>
        match Text.hexNumber? [b] with
        | none => .error (.method (.noHexDigit (before + 1)))
        | some low => do return UInt8.ofNat (16 * high + low) :: (← ofHex fuel (before + 2) cs)

/-- The methods of bytes. -/
def methods : Methods (List UInt8) Value :=
  (cases.map fun (name, f) => Methods.plain name fun bs => ofChars (f (chars bs)))
    ++ (natures.map fun (name, is) => Methods.plain name fun bs => .bool (is (chars bs)))
    ++ (Shape.widths.map fun (name, f) => (name, widening name f))
    ++ [ ("decode", ⟨.named 0 2 ["encoding", "errors"], fun bs vs => do
          return .ofChars (← Coding.decoded (← Coding.chosen "decode" vs) bs)⟩),
        ("hex", ⟨.named 0 2 ["sep", "bytes_per_sep"], hexDigits⟩),
        ("count", searching fun part cs w => .ok (.whole (Int.ofNat (w.count part cs)))),
        ("find", searching (Search.found false)), ("rfind", searching (Search.found true)),
        ("index", searching (Search.present "subsection not found" false)),
        ("rindex", searching (Search.present "subsection not found" true)),
        ("startswith", bordering "startswith" false), ("endswith", bordering "endswith" true),
        ("split", toRows false), ("rsplit", toRows true),
        ("splitlines", ⟨.named 0 1 ["keepends"], fun bs vs => do
          let lines ← Division.lines (bs.map (char isLineEnd)) vs
          return .list none (lines.map ofChars)⟩),
        ("partition", toParts false), ("rpartition", toParts true),
        ("strip", stripping "strip" true true), ("lstrip", stripping "lstrip" true false),
        ("rstrip", stripping "rstrip" false true),
        ("removeprefix", dropping "removeprefix" false),
        ("removesuffix", dropping "removesuffix" true),
        ("replace", ⟨.row 2 3, fun
          | bs, [some old, some new, limit] => do
            let old ← textOf old
            let new ← textOf new
            return ofChars (← Replacement.replaced (chars bs) [some old, some new, limit])
          | _, _ => .error .unsupported⟩),
        Methods.single "join" fun bs v => do
          if !v.isWalkable then throw (.method .notJoinable)
          return .bytes (← joinedFrom bs 0 (← v.items)),
        Methods.single "zfill" fun bs v => do
          return ofChars (← Shape.zeroFilled Room.askBytes (chars bs) v),
        ("expandtabs", ⟨.named 0 1 ["tabsize"], fun bs vs => do
          return ofChars (← Shape.expanded (chars bs) vs)⟩),
        Methods.single "fromhex" fun _ v =>
          match v.text? with
          | none => .error (.method (.wanted "fromhex() argument must be str" v.argumentKind))
          | some s =>
            match s.toList.findIdx? fun c => 128 ≤ c.toNat with
            | some place => .error (.method (.noHexDigit place))
            | none => (ofHex (s.length + 1) 0 s.toList).map .bytes ]

end Octets

end TagCloud.Template
