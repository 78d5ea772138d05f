import TagCloud.Number.Complex
import TagCloud.Number.Real
import TagCloud.Template.Arrangement
import TagCloud.Template.Method.Coding
import TagCloud.Template.Method.Members
import TagCloud.Template.Method.Number
import TagCloud.Text.Case

/-!
# Functions that make values

A range comes from one to three whole numbers, a dictionary from what a value has and from named
arguments. There are also small tools: rows that are gone through again and again, separators that
stand only between things, and values with members of any name.

Filler text is made of words that nobody reads. Which words they are, and how many between two
bounds, does not matter, so it is always the same.
-/

namespace TagCloud.Template

/-!
## Numbers made from values

A number is made from another number or from a text that spells it. A whole number may be spelled in
a base of its own; a complex number may be made from its two parts, each of which may be complex
itself.
-/

namespace Value

/-- The real number that a value is or spells. -/
def asReal (v : Value) : Except Fault Float :=
  match v, v.number?, v.numeral? with
  | undefined complaint, _, _ => .error (.undefined complaint)
  | _, some q, _ => q.magnitude.mapError fun _ => .operator .floatRange
  | _, none, some s =>
    match Number.readReal? s with
    | some x => .ok x
    | none => .error (.noReal v.shown)
  | v, none, none => .error (.realWanted v.kind.name)

/-- The whole number that a value is or spells. -/
def asWhole (v : Value) : Except Fault Int :=
  match v, v.whole?, v.numeral? with
  | undefined complaint, _, _ => .error (.undefined complaint)
  | real x _, _, _ => (Number.Datum.ofFloat x).truncate.mapError .truncation
  | _, some n, _ => .ok n
  | _, none, some s =>
    match Number.readInteger s with
    | .ok n => .ok n
    | .error (.malformed _) => .error (.making (.malformed 10 v.shown))
    | .error e => .error (.truncation (.text e))
  | v, none, none => .error (.truncation (.kind v.kind))

/-- The whole number that a value spells in a base. -/
def inBase (v base : Value) : Except Fault Int := do
  let base ← base.integer
  if base ≠ 0 && (base < 2 || 36 < base) then throw (.making .base)
  match v.numeral? with
  | none => throw (.making .numeralWanted)
  | some s =>
    match Number.readBased? base s with
    | some n => return n
    | none => throw (.making (.malformed base v.shown))

/-- The complex number that a text spells. -/
def spelledComplex (v : Value) (s : String) : Except Fault Number.Complex :=
  match Number.Complex.withoutLowLines? false s.toList with
  | none => .error (.making (.strangeComplex v.shown))
  | some cs =>
    match Number.Complex.read? cs with
    | none => .error (.making .malformedComplex)
    | some z => .ok z

/-- Fails unless a value may be a part of a complex number; `place` tells which of them. -/
def expectPart (place : String) (v : Value) : Except Fault Unit :=
  match v, v.number? with
  | undefined _, _ | complex .., _ | _, some _ => .ok ()
  | v, none => .error (.making (.complexPart place v.kind.name))

/-- The complex number that a part of another one is. -/
def complexPart (v : Value) : Except Fault Number.Complex :=
  match v, v.number? with
  | undefined complaint, _ => .error (.undefined complaint)
  | complex x y, _ => .ok ⟨x, y⟩
  | _, some q => (q.magnitude.map Number.Complex.ofReal).mapError fun _ => .operator .floatRange
  | v, none => .error (.realWanted v.kind.name)

/-- A value is a complex number and no simpler one. -/
def isComplex : Value → Bool
  | complex .. => true
  | _ => false

/-- The complex number of one or two parts. -/
def asComplex : List (Option Value) → Except Fault Value
  | [some (complex x y), none] => .ok (complex x y)
  | [front, back] => do
    let front := front.getD (whole 0)
    match front.text?, back with
    | some _, some _ => throw (.making .behindText)
    | some s, none =>
      let z ← front.spelledComplex s
      return complex z.re z.im
    | none, back =>
      if (back.bind text?).isSome then throw (.making .textPart)
      if let undefined complaint := front then throw (.undefined complaint)
      front.expectPart "first"
      if let some back := back then back.expectPart "second"
      let z ← front.complexPart
      match back with
      | none => return complex z.re z.im
      | some back =>
        let w ← back.complexPart
        return complex (if back.isComplex then z.re - w.im else z.re)
          (if front.isComplex then w.re + z.im else w.re)
  | _ => .error .unsupported

end Value

/-!
## Classes that make values

The class of a value makes values of its kind from others. What has items may become a row or a set,
text and bytes are made from each other in an encoding, and what every value is shown as may become
text. There are classes that cannot be asked for values, since only evaluating something gives them.
-/

namespace Value

open Signature (needed usually)

/-- The text of bytes in the encoding that is given beside them. -/
def decoded (v : Value) (encoding errors : Option Value) : Except Fault String := do
  let names ← Coding.chosen "str" [encoding, errors]
  match v with
  | bytes bs => return String.ofList (← Coding.decoded names bs)
  | text _ _ | markup _ => throw (.making .decodedTwice)
  | v => throw (.making (.decoded v.kind.name))

/-- The bytes that a value is, that its items are, or as many zeros as it says. -/
def asBytes (v : Value) : Except Fault (List UInt8) :=
  match v.text?, v.whole? with
  | some _, _ => .error (.making .encodingWanted)
  | none, some n =>
    if n < 0 then .error (.making (if n < -Nat.pow 2 63 then .count else .negativeCount))
    else if Nat.pow 2 63 ≤ n then .error (.making .count)
    else do
      Room.askBytes n.toNat
      return List.replicate n.toNat 0
  | none, none => Numeric.bytesArgument v

/-- The bytes of the arguments of a call: a value, an encoding, and a way to handle what does not
fit. -/
def bytesOf : List (Option Value) → Except Fault (List UInt8)
  | [none, none, none] => .ok []
  | [some v, none, none] => v.asBytes
  | [v, encoding, errors] => do
    let names ← Coding.chosen "bytes" [encoding, errors]
    match v.bind text?, encoding with
    | some s, some _ => Coding.encoded names s
    | some _, none => throw (.making .encodingWanted)
    | none, some _ => throw (.making (.textWanted "encoding"))
    | none, none => throw (.making (.textWanted "errors"))
  | _ => .error .unsupported

/-- What is not there, with what is to be said about it: a hint, or else what was asked for and of
what. -/
def absence (c : Call) : Except Fault Value := do
  let signature : Signature := ⟨"Undefined.__init__", ["self"],
    [usually "hint" null, usually "obj" null, usually "name" null, usually "exc" null]⟩
  match ← (signature.bind c).mapError .call with
  | [hint, owner, name, null] =>
    if !hint.isEmpty then return undefined hint.plainText
    let owned := 2 ≤ c.row.length || (Dictionary.get? "obj" c.named).isSome
    if owned then return absent owner name
    return undefined (name.shown ++ " is undefined")
  | _ => throw .unsupported

/-- A group of a key and of what it is the key of. -/
def grouping (c : Call) : Except Fault Value := do
  let signature : Signature :=
    ⟨"_GroupTuple.__new__", ["_cls"], [needed "grouper", needed "list"]⟩
  match ← (signature.bind c).mapError .call with
  | [k, list _ vs] => return group k vs
  | vs => return tuple vs

/-- The class of a value; of three arguments none would be a value of a kind that there is. -/
def classOf (c : Call) : Except Fault Value :=
  let wanted (place kind : String) (v : Value) : Fault :=
    .method (.wanted ("type.__new__() argument " ++ place ++ " must be " ++ kind) v.argumentKind)
  match c.row, c.named with
  | [v], [] => .ok (builtin (.ofKind v.kind))
  | [_], _ => .error (.call (.noKeywords Kind.type.name))
  | [name, bases, members], _ =>
    match name.text?, bases, members with
    | none, _, _ => .error (wanted "1" "str" name)
    | _, tuple _, dictionary .. => .error .unsupported
    | _, tuple _, members => .error (wanted "3" "dict" members)
    | _, bases, _ => .error (wanted "2" "tuple" bases)
  | _, _ => .error (.making .oneOrThree)

/-- The function of some instructions, which no value is. -/
def functionOf (c : Call) : Except Fault Value := do
  let names := ["code", "globals", "name", "argdefs", "closure"]
  match ← ((Taking.named 2 5 names).arguments "" Kind.function.name c).mapError .call with
  | some v :: _ =>
    throw (.method (.wanted "function() argument 'code' must be code" v.argumentKind))
  | _ => throw .unsupported

/-- Only evaluating something gives values of a class. -/
def isClosed : Kind → Bool
  | .method => true
  | .other name =>
    Operation.isIterator name && name ≠ "reversed"
      || [ "dict_keys", "dict_values", "dict_items", "generator", "getset_descriptor",
          "member_descriptor", "method-wrapper", "method_descriptor",
          "wrapper_descriptor" ].contains name
  | _ => false

/-- A reflection of the members of a dictionary. -/
def reflected (v : Value) : Except Fault Value :=
  match v with
  | dictionary h members | reflection h members => .ok (reflection h members)
  | v => .error (.making (.notMapping v.kind.name))

/-- Refuses to make a method of what cannot be one. -/
def boundTo (f receiver : Value) : Except Fault Value :=
  if !f.isCallable then .error (.making .notCallable)
  else if receiver.kind = .null then .error (.making .noInstance)
  else .error .unsupported

/-- The value that a class makes from the arguments of a call. -/
def made (k : Kind) (c : Call) : Except Fault Value := do
  let arguments (t : Taking) : Except Fault (List (Option Value)) :=
    (t.arguments "" k.name c).mapError .call
  match k with
  | .null =>
    if c.row.isEmpty && c.named.isEmpty then return null
    else throw (.making (.nothingTaken k.name))
  | .whole =>
    match ← arguments (.named 0 2 ["", "base"]) with
    | [none, none] => return whole 0
    | [some v, none] => if v.kind = .whole then return v else return whole (← v.asWhole)
    | [none, some _] => throw (.making .noNumeral)
    | [some v, some base] => return whole (← v.inBase base)
    | _ => throw .unsupported
  | .other "complex" => asComplex (← arguments (.named 0 2 ["real", "imag"]))
  | .text =>
    match ← arguments (.named 0 3 ["object", "encoding", "errors"]) with
    | [some v, none, none] => v.asText
    | [some v, encoding, errors] => return text (← v.decoded encoding errors)
    | rest =>
      let _ ← Coding.chosen "str" (rest.drop 1)
      return text ""
  | .bytes => return bytes (← bytesOf (← arguments (.named 0 3 ["source", "encoding", "errors"])))
  | .markup =>
    let signature : Signature := ⟨"Markup.__new__", ["cls"],
      [usually "object" (text ""), usually "encoding" null, usually "errors" (text "strict")]⟩
    match ← (signature.bind c).mapError .call with
    | [v, null, _] => return markup (← v.trusted)
    | [v, encoding, errors] => return markup (← v.decoded (some encoding) (some errors))
    | _ => throw .unsupported
  | .undefined => absence c
  | .other "_GroupTuple" => grouping c
  | .type => classOf c
  | .other "mappingproxy" =>
    match ← arguments (.named 1 1 ["mapping"]) with
    | [some v] => v.reflected
    | _ => throw .unsupported
  | .other "slice" =>
    match ← arguments (.row 1 3) with
    | [some stop, none, _] => return bounds null stop null
    | [some start, some stop, step] => return bounds start stop (step.getD null)
    | _ => throw .unsupported
  | .other "reversed" =>
    match ← arguments (.row 1 1) with
    | [some v] => return iterator none v.backwardsName (← v.backwards) v.ending?
    | _ => throw .unsupported
  | .other "method" =>
    match ← arguments (.row 2 2) with
    | [some f, some receiver] => boundTo f receiver
    | _ => throw .unsupported
  | .other "NotImplementedType" =>
    if c.row.isEmpty && c.named.isEmpty then return declined
    else throw (.making (.nothingTaken k.name))
  | .other "object" =>
    throw (if c.row.isEmpty && c.named.isEmpty then .unsupported
      else .making (.nothingTaken "object()"))
  | .function => functionOf c
  | .other "TemplateReference" =>
    let signature : Signature := ⟨"TemplateReference.__init__", ["self"], [needed "context"]⟩
    let _ ← (signature.bind c).mapError .call
    return blocks
  | k =>
    if isClosed k then throw (.making (.notMade k.name))
    match k, ← arguments (.row 0 1) with
    | .real, [none] => return real 0.0
    | .real, [some v] => if v.kind = .real then return v else return real (← v.asReal)
    | .truth, [v] => return bool !((v.getD null).isEmpty)
    | .list, [none] => return list none []
    | .list, [some v] => return list none (← v.items)
    | .tuple, [none] => return tuple []
    | .tuple, [some v] => return tuple (← v.items)
    | .set, [none] => return set none false []
    | .set, [some v] => return set none false (Sets.begun v (← (← v.items).mapM key) [])
    | .frozenSet, [none] => return set none true []
    | .frozenSet, [some v] => return set none true (Sets.begun v (← (← v.items).mapM key) [])
    | _, _ => throw .unsupported

end Value

/-! ## Functions that make values -/

namespace Value

open Signature (needed usually)

/-- The range of a call. -/
def callRange (c : Call) : Except Fault Value := do
  if !c.named.isEmpty then throw (.call (.noKeywords "range"))
  if 3 < c.row.length then throw (.call (.atMost "range" 3 c.row.length))
  match ← c.row.mapM integer with
  | [] => throw (.call (.atLeast "range" 1 0))
  | [stop] => return range 0 stop 1
  | [start, stop] => return range start stop 1
  | start :: stop :: step :: _ =>
    if step = 0 then throw .zeroStep
    return range start stop step

/-- The row of a call that is gone through again and again. -/
def callCycler (c : Call) : Except Fault Value :=
  match c.named, c.row with
  | (name, _) :: _, _ => .error (.call (.unknownKeyword "Cycler.__init__" name))
  | [], [] => .error .emptyCycler
  | [], vs => .ok (cycler none vs 0)

/-- The separator of a call. -/
def callJoiner (c : Call) : Except Fault Value := do
  let signature : Signature := ⟨"Joiner.__init__", ["self"], [usually "sep" (text ", ")]⟩
  return joiner none ((← (signature.bind c).mapError .call).headD (text ", ")) false

/-- A bound of the number of words in a paragraph, which has to be whole in value if not in kind. -/
def wordBound (which : String) (v : Value) : Except Fault Int :=
  match v.whole? with
  | some n => .ok n
  | none => do
    let n ← v.asWhole
    if equal (whole n) v then return n else throw (.making (.unevenBound which))

/-- The number of words in a paragraph, of which the least that the bounds leave will do. -/
def wordCount (least most : Value) : Except Fault Nat := do
  let first ← wordBound "arg 1" least
  match most with
  | null => if 0 < first then return 0 else throw (.making (.noChoice ""))
  | most =>
    let last ← wordBound "stop" most
    let width := last - first
    if width ≤ 0 then
      let shown := Json.Value.commaJoined [toString first, toString last, toString width]
      throw (.making (.noChoice (" (" ++ shown ++ ")")))
    return first.toNat

/-- The words of filler text. -/
def fillerWords : List String :=
  ["lorem", "ipsum", "dolor", "sit", "amet", "consectetuer", "adipiscing", "elit"]

/-- How far a paragraph of filler text has come: the places of the last comma and of the last full
stop, whether a sentence begins, and the words so far from the last to the first. -/
structure Filling where
  comma : Int
  stop : Int
  begins : Bool
  words : List String

/-- One more word of filler text. Commas and full stops do not follow each other too soon. -/
def Filling.next (f : Filling) (place : Nat) : Filling :=
  let word := (fillerWords[place % fillerWords.length]?).getD ""
  let word := if f.begins then Text.capitalized word else word
  let pauses := f.comma < Int.ofNat place - 3
  let comma := if pauses then Int.ofNat place else f.comma
  let stop := if pauses then f.stop + 2 else f.stop
  let word := if pauses then word ++ "," else word
  if stop < Int.ofNat place - 10 then
    ⟨Int.ofNat place, Int.ofNat place, true, (word ++ ".") :: f.words⟩
  else ⟨comma, stop, false, word :: f.words⟩

/-- A paragraph of filler text with so many words. It ends in a full stop even without words. -/
def paragraph (count : Nat) : String :=
  let made := " ".intercalate
    ((List.range count).foldl Filling.next ⟨0, 0, true, []⟩).words.reverse
  if made.endsWith "," then (made.dropEnd 1).toString ++ "."
  else if made.endsWith "." then made
  else made ++ "."

/-- Filler text in paragraphs. -/
def callFiller (c : Call) : Except Fault Value := do
  let signature : Signature := ⟨"generate_lorem_ipsum", [], [usually "n" (whole 5),
    usually "html" (bool true), usually "min" (whole 20), usually "max" (whole 100)]⟩
  match ← (signature.bind c).mapError .call with
  | [n, html, least, most] =>
    let n ← n.integer
    let count ← if 0 < n then wordCount least most else pure 0
    Room.ask (n.toNat * (count + 1))
    let made := paragraph count
    if html.isEmpty then return text ("\n\n".intercalate (List.replicate n.toNat made))
    else return markup ("\n".intercalate (List.replicate n.toNat ("<p>" ++ made ++ "</p>")))
  | _ => throw .unsupported

/-- Calls a function that has nothing to do with clouds. -/
def callBuiltin (f : Builtin) (c : Call) : Except Fault Value :=
  match f with
  | .range => callRange c
  | .dictionary => do return dictionary none (← Members.updated "dict" [] c)
  | .space => do return space none (← Members.updated "dict" [] c)
  | .cycler => callCycler c
  | .joiner => callJoiner c
  | .filler => callFiller c
  | .kind k => made k c
  | .cloud => .error .unsupported

end Value

end TagCloud.Template
