import TagCloud.Template.Fault
import TagCloud.Text.CodePage
import TagCloud.Text.DomainName
import TagCloud.Text.Name
import TagCloud.Text.Switching
import TagCloud.Text.Utf7
import TagCloud.Text.Utf8

/-!
# Encodings and their names

An encoding turns a text into bytes. It is known by a number of names, in which the case of letters
does not matter and neither does what stands between words. A few names are asked for so often that
no other way to an encoding is gone for them.
-/

namespace TagCloud.Template

/-- An encoding of texts in bytes. -/
inductive Encoding where
  | utf8 (marked : Bool)
  | single (name : String) (limit : Nat)
  | page (p : Text.CodePage)
  | pairs (p : Text.PairPage)
  | groups
  | switching (p : Text.SwitchPage)
  | wide (size : Nat) (lowFirst marked : Bool)
  | sections
  | escaped (raw : Bool)
  | punycode
  | domain
  | forbidden
  deriving Repr, DecidableEq

namespace Encoding

/-- The name of an encoding with small letters, and a low line for whatever stands between letters,
digits and points. -/
def plainName (name : String) : String :=
  let words := name.toList.splitBy fun a b => isPart a == isPart b
  String.ofList (['_'].intercalate ((words.filter fun word => word.all isPart).map
    (List.map Char.toLower)))
where
  isPart (c : Char) : Bool := c.isAlphanum || c = '.'

/-- The encodings by the names that are asked for so often that no other way to one is gone. -/
def nearNames : List (Encoding × List String) :=
  [ (.utf8 false, ["utf_8", "utf8"]), (.single "ascii" 128, ["ascii", "us_ascii"]),
    (.single "latin-1" 256, ["latin_1", "latin1", "iso8859_1", "iso_8859_1"]),
    (.wide 2 true true, ["utf_16", "utf16"]), (.wide 4 true true, ["utf_32", "utf32"]) ]

/-- The encodings by names that have no points in them. -/
def properNames : List (Encoding × List String) :=
  [ (.utf8 true, ["utf_8_sig"]), (.wide 2 true false, ["utf_16_le"]),
    (.wide 2 false false, ["utf_16_be"]), (.wide 4 true false, ["utf_32_le"]),
    (.wide 4 false false, ["utf_32_be"]), (.single "latin-1" 256, ["charmap"]),
    (.sections, ["utf_7"]), (.escaped false, ["unicode_escape"]),
    (.escaped true, ["raw_unicode_escape"]), (.punycode, ["punycode"]), (.domain, ["idna"]),
    (.forbidden, ["undefined"]), (.groups, ["hz"]) ]

/-- The encodings by their other names, in which a point may stand for a low line. -/
def otherNames : List (Encoding × List String) :=
  [ (.utf8 false, ["u8", "utf", "utf8", "utf8_ucs2", "utf8_ucs4", "cp65001"]),
    (.single "ascii" 128,
      ["646", "ansi_x3.4_1968", "ansi_x3_4_1968", "ansi_x3.4_1986", "cp367", "csascii", "ibm367",
        "iso646_us", "iso_646.irv_1991", "iso_ir_6", "us", "us_ascii"]),
    (.single "latin-1" 256,
      ["8859", "cp819", "csisolatin1", "ibm819", "iso8859", "iso8859_1", "iso_8859_1",
        "iso_8859_1_1987", "iso_ir_100", "l1", "latin", "latin1"]),
    (.wide 2 true true, ["u16", "utf16"]),
    (.wide 2 true false, ["unicodelittleunmarked", "utf_16le"]),
    (.wide 2 false false, ["unicodebigunmarked", "utf_16be"]),
    (.wide 4 true true, ["u32", "utf32"]), (.wide 4 true false, ["utf_32le"]),
    (.wide 4 false false, ["utf_32be"]), (.sections, ["u7", "utf7", "unicode_1_1_utf_7"]),
    (.groups, Text.Groups.otherNames) ]

/-- All code pages. -/
def pages : List Text.CodePage :=
  Text.CodePage.standardPages ++ Text.CodePage.windowPages ++ Text.CodePage.terminalPages
    ++ Text.CodePage.mainframePages ++ Text.CodePage.desktopPages

/-- The encodings that are known to tables, with their names and their other names. -/
def tables : List (Encoding × String × List String) :=
  pages.map (fun p => (.page p, p.name, p.otherNames))
    ++ Text.PairPage.all.map (fun p => (.pairs p, p.name, p.otherNames))
    ++ Text.SwitchPage.all.map fun p => (.switching p, p.name, p.otherNames)

/-- What some names lead to. -/
def under? (names : List (Encoding × List String)) (name : String) : Option Encoding :=
  (names.find? fun (_, known) => known.contains name).map (·.1)

/-- The encoding of a name that is asked for often. -/
def near? (name : String) : Option Encoding :=
  under? nearNames (plainName name)

/-- The encoding of a name. -/
def ofName? (name : String) : Option Encoding :=
  let name := plainName name
  let pointless := String.ofList (name.toList.map fun c => if c = '.' then '_' else c)
  let listed (isNamed : String → List String → Bool) :=
    (tables.find? fun (_, proper, others) => isNamed proper others).map (·.1)
  let known := (under? nearNames name).or (under? properNames name)
  let other := (under? otherNames name).or (under? otherNames pointless)
  ((known.or other).or (listed fun proper _ => proper = name)).or
    (listed fun _ others => others.contains name || others.contains pointless)

end Encoding

/-!
## Writing texts in encodings

A text is written character by character. What the encoding has no bytes for is handled in a way of
which the usual one is to fail; another one leaves something else in its place, which is written in
the same encoding. A way that is not known is met only when something is to be handled.

Some encodings have bytes for all characters, and names of domains are written as a whole.
-/

namespace Encoding

/-- What a way to handle characters without bytes makes of one. -/
def substitute (handler : String) (c : Char) : Except MethodFault (List Char) :=
  match handler with
  | "ignore" => .ok []
  | "replace" => .ok ['?']
  | "xmlcharrefreplace" => .ok ('&' :: '#' :: Nat.toDigits 10 c.toNat ++ [';'])
  | "backslashreplace" => .ok (Text.numberEscape c)
  | "namereplace" =>
    .ok (((Text.nameOf? c).map fun name => ("\\N\x7b" ++ name ++ "\x7d").toList).getD
      (Text.numberEscape c))
  | name => .error (.handler name)

/-- The ways to handle characters without bytes that fail. -/
def failingWays : List String :=
  ["strict", "surrogateescape", "surrogatepass"]

/-- An encoding that writes characters one by one: what faults call it, why a character has no
bytes, whether a fault goes on as long as characters have none, and the bytes of those that have
some. -/
structure Writing where
  codec : String
  reason : String
  goesOn : Bool
  bytes? : Char → Option (List UInt8)

namespace Writing

/-- The fault of a character in some place, and of those behind it, that have no bytes. -/
def fault (w : Writing) (place : Nat) (c : Char) (cs : List Char) : MethodFault :=
  let size := if w.goesOn then (cs.takeWhile fun c => (w.bytes? c).isNone).length else 0
  .unencodable w.codec c place (place + size + 1) w.reason

/-- The characters that are written for those from some place on, behind others that stand from
right to left. All of them have bytes. -/
def settled (w : Writing) (handler : String) (place : Nat) (done : List Char) :
    List Char → Except MethodFault (List Char)
  | [] => .ok done.reverse
  | c :: cs =>
    if (w.bytes? c).isSome then w.settled handler (place + 1) (c :: done) cs
    else if failingWays.contains handler then .error (w.fault place c cs)
    else
      match substitute handler c with
      | .error e => .error e
      | .ok made =>
        if made.all fun c => (w.bytes? c).isSome then
          w.settled handler (place + 1) (made.reverse ++ done) cs
        else .error (w.fault place c cs)

/-- Writes characters. -/
def run (w : Writing) (handler : String) (cs : List Char) : Except MethodFault (List UInt8) :=
  (w.settled handler 0 [] cs).map fun cs => cs.flatMap fun c => (w.bytes? c).getD []

end Writing

/-- A number in so many bytes. -/
def unit (size : Nat) (lowFirst : Bool) (n : Nat) : List UInt8 :=
  let bytes := (List.range size).map fun i => UInt8.ofNat (n / Nat.pow 256 i)
  if lowFirst then bytes else bytes.reverse

/-- A character in wide units, of which two bytes may not be enough for one. -/
def wideChar (size : Nat) (lowFirst : Bool) (c : Char) : List UInt8 :=
  let n := c.toNat
  if size = 2 && 0x10000 ≤ n then
    unit 2 lowFirst (0xD800 + (n - 0x10000) / 0x400)
      ++ unit 2 lowFirst (0xDC00 + (n - 0x10000) % 0x400)
  else unit size lowFirst n

/-- An encoding in which each character below a limit is the byte of its number. -/
def singles (name : String) (limit : Nat) : Writing :=
  ⟨name, "ordinal not in range(" ++ toString limit ++ ")", true,
    fun c => if c.toNat < limit then some [UInt8.ofNat c.toNat] else none⟩

/-- A code page as an encoding. -/
def paged (p : Text.CodePage) : Writing :=
  ⟨"charmap", "character maps to <undefined>", true, fun c => (p.byteOf? c).map fun b => [b]⟩

/-- An encoding with more than one byte for some characters. -/
def multiple (name : String) (bytes? : Char → Option (List UInt8)) : Writing :=
  ⟨name, "illegal multibyte sequence", false, bytes?⟩

/-- A character with an escape for whatever is not plain, or for what has more than one byte. -/
def escapedChar (raw : Bool) (c : Char) : List Char :=
  if raw then if c.toNat < 256 then [c] else Text.numberEscape c
  else
    match c with
    | '\\' => ['\\', '\\']
    | '\t' => ['\\', 't']
    | '\n' => ['\\', 'n']
    | '\r' => ['\\', 'r']
    | c => if ' ' ≤ c && c ≤ '~' then [c] else Text.numberEscape c

/-- Characters of one byte as bytes. -/
def narrow (cs : List Char) : List UInt8 :=
  cs.map fun c => UInt8.ofNat c.toNat

/-- What is wrong with a name of a domain. -/
def domainFault : Text.DomainFault → Fault
  | .size => .method (.coding "label empty or too long")
  | .longEnd => .method (.coding "label too long")
  | .prohibited c => .method (.coding ("Invalid character " ++ Text.quoted c.toString))
  | .mixed => .method (.coding "Violation of BIDI requirement 2")
  | .loose => .method (.coding "Violation of BIDI requirement 3")
  | .marked => .method (.coding "Label starts with ACE prefix")
  | .punycode flaw => punycodeFault (fun reason =>
      .method (.coding (MethodFault.codingOf "decoding" "punycode" reason).message)) flaw
  | .noRoundTrip label again =>
    let bytes (cs : List Char) := "b'" ++ String.ofList cs ++ "'"
    .method (.codingRow
      ("('IDNA does not round-trip', " ++ bytes label ++ ", " ++ bytes again ++ ")"))
  | .notPlain label =>
    let place := (label.findIdx? fun c => 128 ≤ c.toNat).getD 0
    let byte := ((label[place]?).getD ' ').toNat
    .method (.undecodable ("'ascii' codec can't decode byte 0x"
      ++ String.ofList (Text.hexDigits 2 byte) ++ " in position " ++ toString place
      ++ ": ordinal not in range(128)"))
where
  /-- What is wrong with digits of Punycode, where `fault` tells how it is reported. -/
  punycodeFault (fault : String → Fault) : Text.Punycode.Flaw → Fault
  | .incomplete => fault "incomplete punicode string"
  | .noDigit c => fault ("Invalid extended code point '" ++ c.toUpper.toString ++ "'")
  | .noChar n =>
    fault ("Invalid character U+" ++ String.ofList (Nat.toDigits 16 n))
  | .loneHalf => .unsupported

/-- A text in an encoding. -/
def encode (e : Encoding) (handler s : String) : Except Fault (List UInt8) :=
  match e with
  | .utf8 marked =>
    .ok ((if marked then [0xEF, 0xBB, 0xBF] else []) ++ Text.encodeUtf8 s)
  | .single name limit => ((singles name limit).run handler s.toList).mapError .method
  | .page p => ((paged p).run handler s.toList).mapError .method
  | .pairs p => ((multiple p.name p.bytesOf?).run handler s.toList).mapError .method
  | .groups =>
    (((multiple "hz" Text.Groups.bytesOf?).settled handler 0 [] s.toList).map
      (Text.Groups.encodeFrom false)).mapError .method
  | .switching p =>
    (((multiple p.name fun c => (p.setOf? c).map (·.2)).settled handler 0 [] s.toList).map
      (p.encodeFrom Text.SwitchPage.start)).mapError .method
  | .wide size lowFirst marked =>
    .ok ((if marked then unit size lowFirst 0xFEFF else [])
      ++ s.toList.flatMap (wideChar size lowFirst))
  | .sections => .ok (narrow (Text.Utf7.encode s.toList))
  | .escaped raw => .ok (narrow (s.toList.flatMap (escapedChar raw)))
  | .punycode => .ok (narrow (Text.Punycode.encode s.toList))
  | .domain =>
    if handler ≠ "strict" then .error (.method (.coding ("unsupported error handling " ++ handler)))
    else if s.isEmpty then .ok []
    else ((Text.DomainName.encode s.toList).map narrow).mapError domainFault
  | .forbidden => .error (.method (.coding "undefined encoding"))

end Encoding

end TagCloud.Template
