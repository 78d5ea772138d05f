import TagCloud.Template.Encoding
import TagCloud.Template.Literal
import TagCloud.Text.Units

/-!
# Reading bytes in encodings

The bytes of a text are read from the front, some for a character at a time. Bytes that are no
character are handled in a way of which the usual one is to fail; another one leaves characters in
their place.
-/

namespace TagCloud.Template

namespace Encoding

/-- What a way to handle bytes without a character makes of some. -/
def recovered (handler : String) (bad : List UInt8) (fault : MethodFault) :
    Except Fault (List Char) :=
  match handler with
  | "ignore" => .ok []
  | "replace" => .ok ['\uFFFD']
  | "backslashreplace" => .ok (bad.flatMap fun b => '\\' :: 'x' :: Text.hexDigits 2 b.toNat)
  | "strict" | "surrogatepass" => .error (.method fault)
  | "surrogateescape" =>
    .error (if bad.head?.any (128 ≤ ·) then .unsupported else .method fault)
  | "xmlcharrefreplace" | "namereplace" => .error (.method .unrecoverable)
  | name => .error (.method (.handler name))

/-- The fault of bytes in some place that are no text in an encoding. -/
def undecodable (codec : String) (bad : List UInt8) (place : Nat) (reason : String) : MethodFault :=
  let which :=
    match bad with
    | [b] => " 0x" ++ String.ofList (Text.hexDigits 2 b.toNat) ++ " in position " ++ toString place
    | bad => "s in position " ++ toString place ++ "-" ++ toString (place + bad.length - 1)
  .undecodable ("'" ++ codec ++ "' codec can't decode byte" ++ which ++ ": " ++ reason)

/-- What stands at the front of bytes: characters in so many bytes, so many bytes that are none for
some reason, or half of a pair of units. -/
inductive Front where
  | chars (cs : List Char) (size : Nat)
  | bad (size : Nat) (reason : String)
  | loneHalf

/-- An encoding that is read from the front. -/
structure Reading where
  codec : String
  front : List UInt8 → Front

/-- Reads bytes from some place on, behind characters that stand from right to left; so many bytes
have been read already. -/
def Reading.run (r : Reading) (handler : String) (place skip : Nat) (done : List Char) :
    List UInt8 → Except Fault (List Char)
  | [] => .ok done.reverse
  | b :: bs =>
    match skip with
    | skip + 1 => r.run handler (place + 1) skip done bs
    | 0 =>
      match r.front (b :: bs) with
      | .chars cs size => r.run handler (place + 1) (size - 1) (cs.reverse ++ done) bs
      | .bad size reason =>
        let bad := (b :: bs).take size
        match recovered handler bad (undecodable r.codec bad place reason) with
        | .error e => .error e
        | .ok handled => r.run handler (place + 1) (size - 1) (handled.reverse ++ done) bs
      | .loneHalf => .error .unsupported

/-- An encoding in which each byte below a limit is the character of its number. -/
def readingSingles (name : String) (limit : Nat) : Reading :=
  ⟨name, fun bs =>
    let b := bs.headD 0
    if b.toNat < limit then .chars [Char.ofNat b.toNat] 1
    else .bad 1 ("ordinal not in range(" ++ toString limit ++ ")")⟩

/-- A code page as an encoding. -/
def readingPage (p : Text.CodePage) : Reading :=
  ⟨"charmap", fun bs =>
    match p.charOf? (bs.headD 0) with
    | some c => .chars [c] 1
    | none => .bad 1 "character maps to <undefined>"⟩

/-- Bytes in UTF-8, some of them standing before those given. -/
def decodeNarrow (handler : String) : (fuel : Nat) → (before : Nat) → List UInt8 →
    Except Fault (List Char)
  | 0, _, _ => .ok []
  | fuel + 1, before, bs =>
    match Text.decodeUtf8 bs with
    | .ok cs => .ok cs
    | .error e => do
      let front := (Text.decodeUtf8 (bs.take e.position)).toOption.getD []
      let place := before + e.position
      let bad := (bs.drop e.position).take e.size
      let handled ← recovered handler bad (.undecodable { e with position := place }.message)
      let rest := bs.drop (e.position + max e.size 1)
      return front ++ handled ++ (← decodeNarrow handler fuel (place + max e.size 1) rest)

/-! ## Wide units -/

/-- The number that a row of bytes is. -/
def number (lowFirst : Bool) (bs : List UInt8) : Nat :=
  (if lowFirst then bs.reverse else bs).foldl (fun n b => n * 256 + b.toNat) 0

/-- The front of bytes in units of two, of which two may be one character. -/
def frontOfPairs (lowFirst : Bool) (bs : List UInt8) : Front :=
  match bs with
  | a :: b :: rest =>
    let unit := number lowFirst [a, b]
    if unit < 0xD800 || 0xE000 ≤ unit then .chars [Char.ofNat unit] 2
    else if 0xDC00 ≤ unit then .bad 2 "illegal encoding"
    else
      match rest with
      | c :: d :: _ =>
        match Text.pairChar? unit (number lowFirst [c, d]) with
        | some c => .chars [c] 4
        | none => .bad 2 "illegal UTF-16 surrogate"
      | _ => .bad bs.length "unexpected end of data"
  | bs => .bad bs.length "truncated data"

/-- The front of bytes in units of four. -/
def frontOfFours (lowFirst : Bool) (bs : List UInt8) : Front :=
  let unit := bs.take 4
  let n := number lowFirst unit
  if unit.length < 4 then .bad unit.length "truncated data"
  else if 0xD800 ≤ n && n < 0xE000 then
    .bad 4 "code point in surrogate code point range(0xd800, 0xe000)"
  else if 0x110000 ≤ n then .bad 4 "code point not in range(0x110000)"
  else .chars [Char.ofNat n] 4

/-- An encoding in wide units. -/
def readingWide (size : Nat) (lowFirst : Bool) : Reading :=
  ⟨(if size = 2 then "utf-16-" else "utf-32-") ++ if lowFirst then "le" else "be",
    if size = 2 then frontOfPairs lowFirst else frontOfFours lowFirst⟩

/-! ## Escapes -/

/-- Bytes as characters of their numbers. -/
def widened (bs : List UInt8) : List Char :=
  bs.map fun b => Char.ofNat b.toNat

/-- The number of hexadecimal digits at the front, up to a width. -/
def digitsAhead (width : Nat) (cs : List Char) : Nat :=
  ((cs.take width).takeWhile fun c => (Text.hexDigit? c).isSome).length

/-- What stands behind a backslash as an escape that cannot be read. -/
def badEscape (e : BadEscape) (cs : List Char) : Front :=
  match e with
  | .truncated _ width => .bad (2 + digitsAhead width (cs.drop 1)) e.message
  | .noCharacter =>
    let width := if cs.head? = some 'u' then 4 else 8
    match Text.hexNumber? ((cs.drop 1).take width) with
    | some n => if n < 0x10000 then .loneHalf else .bad (2 + width) e.message
    | none => .bad (2 + width) e.message
  | .malformedName =>
    let name := (cs.drop 2).takeWhile (· ≠ '}')
    if cs.drop 1 |>.head? |>.any (· = '{') then .bad (3 + name.length) e.message
    else .bad 2 e.message
  | .unknownName => .bad (4 + ((cs.drop 2).takeWhile (· ≠ '}')).length) e.message

/-- The greatest number of bytes that an escape can have behind its backslash. -/
def escapeLimit : Nat := 200

/-- The front of bytes with escapes. -/
def frontOfEscapes (bs : List UInt8) : Front :=
  match bs with
  | 92 :: rest =>
    let cs := widened (rest.take escapeLimit)
    if cs.isEmpty then .bad 1 "\\ at end of string"
    else
      match escape cs with
      | .ok (made, left) => .chars made (1 + cs.length - left.length)
      | .error e => badEscape e cs
  | bs => .chars [Char.ofNat (bs.headD 0).toNat] 1

/-- The front of bytes with escapes for characters of more than one byte only. Two backslashes go
together as long as no escape begins with the first of them. -/
def frontOfRawEscapes (bs : List UInt8) : Front :=
  match bs with
  | 92 :: b :: rest =>
    let letter := Char.ofNat b.toNat
    if letter = 'u' || letter = 'U' then
      let cs := letter :: widened (rest.take 8)
      match numbered letter (if letter = 'u' then 4 else 8) (cs.drop 1) with
      | .ok (made, left) => .chars made (1 + cs.length - left.length)
      | .error .noCharacter =>
        match badEscape .noCharacter cs with
        | .bad size _ => .bad size "\\Uxxxxxxxx out of range"
        | front => front
      | .error e => badEscape e cs
    else .chars ['\\', letter] 2
  | bs => .chars [Char.ofNat (bs.headD 0).toNat] 1

/-! ## Pieces -/

/-- Puts together the pieces of bytes in an encoding, behind characters that stand from right to
left. -/
def joinedPieces (codec handler : String) (bs : List UInt8) (done : List Char) :
    List Text.Piece → Except Fault (List Char)
  | [] => .ok done.reverse
  | .char c :: rest => joinedPieces codec handler bs (c :: done) rest
  | .loneHalf :: _ => .error .unsupported
  | .bad start stop reason :: rest =>
    let bad := (bs.drop start).take (stop - start)
    match recovered handler bad (undecodable codec bad start reason) with
    | .error e => .error e
    | .ok handled => joinedPieces codec handler bs (handled.reverse ++ done) rest

/-- The text of bytes in Punycode. -/
def decodePunycode (handler : String) (bs : List UInt8) : Except Fault (List Char) := do
  if ! ["strict", "replace", "ignore"].contains handler then
    throw (.method (.coding ("Unsupported error handling " ++ handler)))
  let behind := (bs.reverse.takeWhile (· ≠ 45)).reverse
  let front := bs.take (bs.length - behind.length - 1)
  let plain ← (readingSingles "ascii" 128).run handler 0 0 []
    (if behind.length = bs.length then [] else front)
  let digits ← (readingSingles "ascii" 128).run "strict" 0 0 [] behind
  (Text.Punycode.decode (handler ≠ "strict") plain digits).mapError
    (domainFault.punycodeFault fun reason => .method (.coding reason))

/-- The text of bytes in an encoding, with a way to handle what is no text. -/
def decode (e : Encoding) (handler : String) (bs : List UInt8) : Except Fault (List Char) :=
  match e with
  | .utf8 marked =>
    let bs := if marked && [0xEF, 0xBB, 0xBF].isPrefixOf bs then bs.drop 3 else bs
    decodeNarrow handler (bs.length + 1) 0 bs
  | .single name limit => (readingSingles name limit).run handler 0 0 [] bs
  | .page p => (readingPage p).run handler 0 0 [] bs
  | .wide size lowFirst marked =>
    let begins (low : Bool) := marked && (unit size low 0xFEFF).isPrefixOf bs
    let run (low : Bool) (place : Nat) := (readingWide size low).run handler place 0 []
    if begins true then run true size (bs.drop size)
    else if begins false then run false size (bs.drop size)
    else run lowFirst 0 bs
  | .pairs p => joinedPieces p.name handler bs [] (p.decode bs)
  | .groups => joinedPieces "hz" handler bs [] (Text.Groups.decodeFrom false [] 0 0 bs)
  | .switching p =>
    joinedPieces p.name handler bs [] (p.decodeFrom Text.SwitchPage.start [] 0 0 bs)
  | .sections => joinedPieces "utf7" handler bs [] (Text.Utf7.decode (widened bs))
  | .escaped false => (Reading.mk "unicodeescape" frontOfEscapes).run handler 0 0 [] bs
  | .escaped true => (Reading.mk "rawunicodeescape" frontOfRawEscapes).run handler 0 0 [] bs
  | .punycode => decodePunycode handler bs
  | .domain =>
    if handler ≠ "strict" then .error (.method (.coding ("Unsupported error handling " ++ handler)))
    else (Text.DomainName.decode (widened bs)).mapError domainFault
  | .forbidden => .error (.method (.coding "undefined encoding"))

end Encoding

end TagCloud.Template
