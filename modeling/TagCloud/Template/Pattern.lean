import TagCloud.Number.Layout
import TagCloud.Number.Real
import TagCloud.Seed
import TagCloud.Template.Call
import TagCloud.Text.Quoted

/-!
# Patterns with placeholders

A pattern is a text with placeholders in it, each a percent sign, some specification and a letter
that says how a value is written there. Values come from a tuple in their order, from a dictionary
by their keys, or it is a single one. All values of a tuple have to be used.

A placeholder is read and filled before the next one is looked at, so what is wrong on the left is
found first.

In markup the values are guarded: as texts they are escaped, and as numbers they are read first, so
that a text which spells a number may stand for it. In bytes the values have to be bytes where a
pattern of text would take any text.
-/

namespace TagCloud.Template

open TagCloud.Text

/-- A placeholder without its key: how wide and how precise its text is to be, and its letter with
the place where that stands in the pattern. -/
structure Placeholder where
  flags : List Char
  width : Nat
  precision : Option Nat
  letter : Char
  place : Nat
  deriving Repr, DecidableEq

/-- What a pattern makes: text, markup, or bytes. -/
inductive PatternStyle where
  | plain
  | guarded
  | bytes
  deriving Repr, DecidableEq

namespace Pattern

/-- The characters that may stand behind the percent sign and its key. -/
def flagMarks : List Char := ['-', '+', ' ', '#', '0']

/-- The key behind an opening bracket, and what follows its closing one. Brackets inside a key come
in pairs. -/
def keyAt : (depth : Nat) → List Char → Option (List Char × List Char)
  | _, [] => none
  | depth, c :: cs =>
    let keep (depth : Nat) := (keyAt depth cs).map fun (key, rest) => (c :: key, rest)
    if c = ')' then
      match depth with
      | 0 => some ([], cs)
      | depth + 1 => keep depth
    else keep (if c = '(' then depth + 1 else depth)

/-- The values that can be looked up by a key. -/
def isMapping (style : PatternStyle) : Value → Bool
  | .list .. | .dictionary .. | .reflection .. | .range .. | .blocks | .applied ..
  | .undefined _ => true
  | .bytes _ => style != .bytes
  | _ => false

/-- A text in a pattern as a value. -/
def ofText (style : PatternStyle) (s : String) : Value :=
  if style = .bytes then .bytes (s.toList.map fun c => UInt8.ofNat c.toNat) else .text s

/-- The value under a key. -/
def keyed (style : PatternStyle) (source : Value) (key : String) : Except Fault Value :=
  match source with
  | .dictionary _ members | .reflection _ members =>
    let key := ofText style key
    match Value.member? key members with
    | some v => .ok v
    | none => .error (.noKey key.shown)
  | .undefined complaint => .error (.undefined complaint)
  | .bytes _ => .error (.placeKind "byte" "str")
  | .blocks => .error (.noKey (Text.quoted key))
  | .applied .. => .error (.notGeneric source.shown)
  | v => .error (if isMapping style v then .placeKind v.kind.name "str" else .pattern .noMapping)

/-- The next of the values that are left. -/
def next : List Value → Except Fault (Value × List Value)
  | [] => .error (.pattern .tooFew)
  | v :: vs => .ok (v, vs)

/-- A measure in a placeholder: the greatest number it can be, and what is wrong with a greater one
that is written down and with one that a star takes. -/
structure Measure where
  greatest : Nat
  written : Fault
  taken : Fault

/-- The width of a placeholder. -/
def widthMeasure : Measure :=
  ⟨Room.greatest, .pattern .widthRange, .amountRange⟩

/-- The greatest precision of a placeholder. -/
def precisionLimit : Nat := 2147483647

/-- The precision of a placeholder. -/
def precisionMeasure (style : PatternStyle) : Measure :=
  ⟨precisionLimit, .pattern (.precisionRange (style = .bytes)), .switchRange⟩

/-- A number of characters at the front of a text, which a star takes from the values; a guarded
value is no number. -/
def measureAt (m : Measure) (style : PatternStyle) (supply : List Value) (cs : List Char) :
    Except Fault (Option Int × List Value × List Char) :=
  match cs with
  | '*' :: cs => do
    let (v, supply) ← next supply
    match v.whole? with
    | some n =>
      if style = .guarded then throw (.pattern .starWantsInteger)
      if Int.ofNat m.greatest < n || n < -Int.ofNat m.greatest - 1 then throw m.taken
      return (some n, supply, cs)
    | none => throw (.pattern .starWantsInteger)
  | cs =>
    match cs.takeWhile Char.isDigit with
    | [] => .ok (none, supply, cs)
    | digits =>
      if m.greatest < number digits then .error m.written
      else .ok (some (Int.ofNat (number digits)), supply, cs.drop digits.length)

/-- Reads the placeholder behind a percent sign: it, the values that are left, and what follows. -/
def placeholder (style : PatternStyle) (size : Nat) (source : Value) (supply : List Value)
    (cs : List Char) : Except Fault (Placeholder × List Value × List Char) := do
  let (supply, cs) ←
    match cs with
    | '(' :: rest =>
      if !isMapping style source then throw (.pattern .noMapping)
      match keyAt 0 rest with
      | some (key, rest) => pure ([← keyed style source (String.ofList key)], rest)
      | none => throw (.pattern .incompleteKey)
    | cs => pure (supply, cs)
  let flags := cs.takeWhile flagMarks.contains
  let (width, supply, cs) ← measureAt widthMeasure style supply (cs.drop flags.length)
  let (precision, supply, cs) ←
    match cs with
    | '.' :: cs => do
      let (n, supply, cs) ← measureAt (precisionMeasure style) style supply cs
      pure (some (n.getD 0).toNat, supply, cs)
    | cs => pure (none, supply, cs)
  let width := width.getD 0
  let flags := if width < 0 then '-' :: flags else flags
  let cs :=
    match cs with
    | c :: rest => if ['h', 'l', 'L'].contains c then rest else cs
    | [] => []
  match cs with
  | [] => throw (.pattern .incomplete)
  | letter :: rest =>
    return (⟨flags, width.natAbs, precision, letter, size - cs.length⟩, supply, rest)

/-- A text padded to the width of a placeholder; a number may be padded with zeros behind what
stands before its digits. -/
def padded (p : Placeholder) (numeric : Bool) (front body : List Char) : List Char :=
  let missing := p.width - (front.length + body.length)
  if p.flags.contains '-' then front ++ body ++ List.replicate missing ' '
  else if numeric && p.flags.contains '0' then front ++ List.replicate missing '0' ++ body
  else List.replicate missing ' ' ++ front ++ body

/-- What stands before the digits of a number. -/
def signFor (p : Placeholder) (negative : Bool) : List Char :=
  if negative then ['-'] else if p.flags.contains '+' then ['+']
  else if p.flags.contains ' ' then [' '] else []

/-- A whole number in a placeholder. -/
def writtenWhole (p : Placeholder) (n : Int) : List Char :=
  let base := if p.letter = 'o' then 8 else if p.letter = 'x' || p.letter = 'X' then 16 else 10
  let mark := if base ≠ 10 && p.flags.contains '#' then ['0', p.letter] else []
  let digits := Nat.toDigits base n.natAbs
  let digits := List.replicate ((p.precision.getD 0) - digits.length) '0' ++ digits
  let digits := if p.letter = 'X' then digits.map Char.toUpper else digits
  padded p true (signFor p (n < 0) ++ mark) digits

/-- The form that a letter asks for, if it asks for a real number. -/
def form? (letter : Char) : Option Number.Form :=
  match letter.toLower with
  | 'f' => some .fixed
  | 'e' => some .exponent
  | 'g' => some .general
  | _ => none

/-- A real number in a placeholder. -/
def writtenReal (p : Placeholder) (form : Number.Form) (x : Float) : List Char :=
  let layout : Number.Layout :=
    ⟨form, p.precision.getD 6, p.flags.contains '#', false, false⟩
  let text := layout.written x
  let negative := text.head? == some '-'
  let text := if negative then text.drop 1 else text
  let text := if p.letter.isUpper then text.map Char.toUpper else text
  padded p true (signFor p negative) text

/-- A text in a placeholder. -/
def writtenText (p : Placeholder) (s : String) : List Char :=
  let cs := s.toList
  padded p false [] ((p.precision.map cs.take).getD cs)

/-- A text with every character beyond ASCII shown by its number. -/
def asciiText (s : String) : String :=
  String.ofList (s.toList.flatMap fun c => if 128 ≤ c.toNat then numberEscape c else [c])

/-- The name of the kind of guarded values. -/
def guardName : String := "_MarkupEscapeHelper"

/-- A guarded value as the number that it is or spells. -/
def guardedWhole (p : Placeholder) (v : Value) : Except Fault Value :=
  match v, v.text? with
  | .undefined complaint, _ => .error (.undefined complaint)
  | _, some s =>
    match Number.readInteger s with
    | .ok n => .ok (.whole n)
    | .error e => .error (.truncation (.text e))
  | v, none =>
    if v.number?.isSome then .ok v
    else .error (.pattern (.wantsNumber p.letter guardName))

/-- A guarded value as the real number that it is or spells. -/
def guardedReal (v : Value) : Except Fault Value :=
  match v, v.text? with
  | .undefined complaint, _ => .error (.undefined complaint)
  | _, some s =>
    match Number.readReal? s with
    | some x => .ok (.real x)
    | none => .error (.noReal v.shown)
  | v, none => if v.number?.isSome then .ok v else .error (.realWanted v.kind.name)

/-- A value in a placeholder for whole numbers. -/
def whole (style : PatternStyle) (p : Placeholder) (v : Value) : Except Fault (List Char) := do
  let decimal := ['d', 'i', 'u'].contains p.letter
  if style = .guarded && !decimal then throw (.pattern (.wantsInteger p.letter guardName))
  let v ← if style = .guarded then guardedWhole p v else pure v
  match v with
  | .undefined complaint => throw (.undefined complaint)
  | .real x _ =>
    if decimal then
      match (Number.Datum.ofFloat x).truncate with
      | .ok n => return writtenWhole p n
      | .error e => throw (.truncation e)
    else throw (.pattern (.wantsInteger p.letter v.kind.name))
  | v =>
    match v.whole? with
    | some n => if v.isOverlong && decimal then throw .overlong else return writtenWhole p n
    | none =>
      throw (.pattern (if decimal then .wantsNumber p.letter v.kind.name
        else .wantsInteger p.letter v.kind.name))

/-- A value in a placeholder for real numbers. -/
def real (style : PatternStyle) (p : Placeholder) (form : Number.Form) (v : Value) :
    Except Fault (List Char) := do
  let v ← if style = .guarded then guardedReal v else pure v
  match v, v.number? with
  | .undefined complaint, _ => throw (.undefined complaint)
  | _, some q =>
    match q.magnitude with
    | .ok x => return writtenReal p form x
    | .error _ => throw (.operator .floatRange)
  | v, none => throw (.pattern (.wantsReal (style = .bytes) v.kind.name))

/-- A value in a placeholder for one character, which has no precision. -/
def character (p : Placeholder) (v : Value) : Except Fault (List Char) :=
  let p := { p with precision := none }
  match v.whole?, v.text? with
  | some n, _ =>
    if n < 0 || 0x110000 ≤ n then .error (.pattern .characterRange)
    else .ok (writtenText p (Char.ofNat n.toNat).toString)
  | none, some s =>
    if s.length = 1 then .ok (writtenText p s) else .error (.pattern .wantsCharacter)
  | none, none => .error (.pattern .wantsCharacter)

/-- A value in a placeholder for one byte. -/
def byte (p : Placeholder) (v : Value) : Except Fault (List Char) :=
  let p := { p with precision := none }
  match v, v.whole? with
  | .bytes [b], _ => .ok (writtenText p (Char.ofNat b.toNat).toString)
  | _, some n =>
    if n < 0 || 256 ≤ n then .error (.pattern .byteRange)
    else .ok (writtenText p (Char.ofNat n.toNat).toString)
  | _, none => .error (.pattern .wantsByte)

/-- A value as a text in a placeholder. -/
def ofAny (style : PatternStyle) (p : Placeholder) (v : Value) : Except Fault (List Char) :=
  match style, v with
  | .bytes, .bytes bs =>
    .ok (writtenText p (String.ofList (bs.map fun b => Char.ofNat b.toNat)))
  | .bytes, v => .error (.pattern (.wantsBytes v.kind.name))
  | .guarded, v => do return writtenText p (← v.escaped)
  | .plain, v => do return writtenText p (← v.written)

/-- A value as a placeholder asks for it. -/
def written (style : PatternStyle) (p : Placeholder) (v : Value) : Except Fault (List Char) :=
  let guard (s : String) : String := if style = .guarded then Text.escaped s else s
  let shown (f : String → String) : Except Fault (List Char) :=
    if v.isOverlong then .error .overlong else .ok (writtenText p (f (guard v.shown)))
  match p.letter, form? p.letter with
  | _, some form => real style p form v
  | 's', _ => ofAny style p v
  | 'b', _ => if style = .bytes then ofAny style p v else .error (.pattern (.unknown 'b' p.place))
  | 'r', _ => shown (if style = .bytes then asciiText else id)
  | 'a', _ => shown asciiText
  | 'c', _ =>
    match style with
    | .plain => character p v
    | .guarded => .error (.pattern .wantsCharacter)
    | .bytes => byte p v
  | c, _ =>
    if ['d', 'i', 'u', 'o', 'x', 'X'].contains c then whole style p v
    else .error (.pattern (.unknown c p.place))

/-- Asks for room for what a placeholder asks for. Of a text there may be less than it takes. -/
def askRoom (p : Placeholder) : Except Fault Unit := do
  let precision := p.precision.getD 0
  Room.ask p.width
  if (form? p.letter).isSome then
    if p.letter.toLower ≠ 'g' || p.flags.contains '#' then Room.ask precision
  else if ['d', 'i', 'u', 'o', 'x', 'X'].contains p.letter then
    if precisionLimit - 3 < precision then throw (.beyond "precision too large")
    Room.ask precision

/-- A placeholder that asks for no more than there is. -/
def bare (p : Placeholder) : Placeholder :=
  { p with width := 0, precision := p.precision.map (min 1) }

/-- A value as a placeholder asks for it, if there is room. -/
def writtenInRoom (style : PatternStyle) (p : Placeholder) (v : Value) :
    Except Fault (List Char) := do
  match askRoom p with
  | .ok () => written style p v
  | .error e =>
    let _ ← written style (bare p) v
    throw e

/-- Fills the placeholders of a pattern of some size, of which `cs` is left. -/
def filled (style : PatternStyle) (size : Nat) (source : Value) : (fuel : Nat) → List Value →
    List Char → Except Fault (List Char)
  | 0, _, _ => .error .unsupported
  | fuel + 1, supply, cs =>
    match cs with
    | [] =>
      if !supply.isEmpty && !isMapping style source then
        .error (.pattern (.tooMany (style = .bytes)))
      else .ok []
    | '%' :: '%' :: cs => do return '%' :: (← filled style size source fuel supply cs)
    | '%' :: cs => do
      let (p, supply, cs) ← placeholder style size source supply cs
      let (v, supply) ← next supply
      let text ← writtenInRoom style p v
      return text ++ (← filled style size source fuel supply cs)
    | c :: cs => do return c :: (← filled style size source fuel supply cs)

end Pattern

namespace Value

/-- A pattern with its placeholders filled by a value, or by the values of a tuple. -/
def fill (style : PatternStyle) (pattern : String) (v : Value) : Except Fault String :=
  let cs := pattern.toList
  let supply :=
    match v with
    | tuple vs => vs
    | group k vs => [k, list none vs]
    | v => [v]
  (Pattern.filled style cs.length v (cs.length + 1) supply cs).map String.ofList

/-- A pattern of bytes with its placeholders filled. -/
def fillBytes (pattern : List UInt8) (v : Value) : Except Fault Value := do
  let made ← fill .bytes (String.ofList (pattern.map fun b => Char.ofNat b.toNat)) v
  return Pattern.ofText .bytes made

end Value

end TagCloud.Template
