import TagCloud.Number.Layout
import TagCloud.Template.Fault
import TagCloud.Template.Value
import TagCloud.Text.Digit

/-!
# Numbers in a specification

A number is its sign, the mark of its base, its digits, and what stands behind them: a point and a
fraction, an exponent, or the sign of a percentage. Only the digits before the point are separated
into groups. Where zeros pad the number they count as digits, so they are separated too.
-/

namespace TagCloud.Template

open TagCloud.Text

/-!
## Specifications

A specification says how a value is to be written: how wide, where in that width, with which
character around it, with which sign, with how many digits, and in which form. Its parts stand in a
fixed order, and each of them may be missing.
-/

/-- Where a text stands in a width that is greater than its own. The padding of a number may stand
inside it, between its sign and its digits. -/
inductive Alignment where
  | left
  | right
  | center
  | inside
  deriving Repr, DecidableEq

/-- A specification. -/
structure Specification where
  fill : Char
  alignment : Alignment
  sign : Option Char
  dropsSign : Bool
  alternate : Bool
  width : Option Nat
  separator : Option Char
  precision : Option Nat
  code : Option Char
  deriving Repr, DecidableEq

namespace Specification

/-- The alignment of a mark. -/
def alignment? : Char → Option Alignment
  | '<' => some .left
  | '>' => some .right
  | '^' => some .center
  | '=' => some .inside
  | _ => none

/-- The fill and the alignment at the front of a specification, and what follows them. -/
def alignmentAt (cs : List Char) : Option Char × Option Alignment × List Char :=
  match cs with
  | fill :: mark :: rest =>
    match alignment? mark, alignment? fill with
    | some a, _ => (some fill, some a, rest)
    | none, some a => (none, some a, mark :: rest)
    | none, none => (none, none, cs)
  | [mark] =>
    match alignment? mark with
    | some a => (none, some a, [])
    | none => (none, none, cs)
  | [] => (none, none, [])

/-- The mark at the front of a specification if it is one of some, and what follows it. -/
def markAt (marks : List Char) : List Char → Option Char × List Char
  | c :: cs => if marks.contains c then (some c, cs) else (none, c :: cs)
  | [] => (none, [])

/-- The greatest number that a specification may hold. -/
def numberLimit : Nat := 9223372036854775807

/-- The number at the front of a specification, and what follows it. -/
def numberAt (cs : List Char) : Except LayoutFault (Option Nat × List Char) :=
  match cs.takeWhile isDigit with
  | [] => .ok (none, cs)
  | digits =>
    if numberLimit < number digits then .error .tooManyDigits
    else .ok (some (number digits), cs.drop digits.length)

/-- The separator of digits at the front of a specification, and what follows it. -/
def separatorAt (cs : List Char) : Except LayoutFault (Option Char × List Char) :=
  match cs with
  | ',' :: '_' :: _ | '_' :: ',' :: _ => .error .bothSeparators
  | cs => .ok (markAt [',', '_'] cs)

/-- A form of numbers in which digits may be separated. -/
def separates (mark : Char) : Option Char → Bool
  | none => true
  | some code =>
    "defgEG%F".toList.contains code || (mark = '_' && "boxX".toList.contains code)

/-- Reads a specification for a value of some kind. `usual` are the alignment and the form of such
values. -/
def read (kind : String) (usual : Alignment) (code : Option Char) (text : List Char) :
    Except LayoutFault Specification := do
  let (fill, alignment, cs) := alignmentAt text
  let (sign, cs) := markAt [' ', '+', '-'] cs
  let (drops, cs) := markAt ['z'] cs
  let (alternate, cs) := markAt ['#'] cs
  let (zero, cs) := if fill.isSome then (none, cs) else markAt ['0'] cs
  let (width, cs) ← numberAt cs
  let (separator, cs) ← separatorAt cs
  let (precision, cs) ←
    match cs with
    | '.' :: cs => do
      let (precision, cs) ← numberAt cs
      if precision.isNone then throw .noPrecision
      pure (precision, cs)
    | cs => pure (none, cs)
  let code ←
    match cs with
    | [] => pure code
    | [c] => pure (some c)
    | _ => throw (.malformed (String.ofList text) kind)
  match separator with
  | some mark => if !separates mark code then throw (.separator mark (code.getD ' '))
  | none => pure ()
  let settled := if zero.isSome && usual = .right then .inside else usual
  return {
    fill := fill.getD (if zero.isSome then '0' else ' ')
    alignment := alignment.getD settled
    sign := sign
    dropsSign := drops.isSome
    alternate := alternate.isSome
    width := width
    separator := separator
    precision := precision
    code := code }

/-- A row of characters with others around it, so that it has the width that is asked for. -/
def padded (s : Specification) (front body : List Char) : List Char :=
  let missing := s.width.getD 0 - (front.length + body.length)
  let fill (n : Nat) := List.replicate n s.fill
  match s.alignment with
  | .left => front ++ body ++ fill missing
  | .right => fill missing ++ front ++ body
  | .center => fill (missing / 2) ++ front ++ body ++ fill (missing - missing / 2)
  | .inside => front ++ fill missing ++ body

end Specification

/-! ## Numbers in a format -/

namespace Specification

/-- Digits with a mark between groups of so many, counted from the right. -/
def grouped (size : Nat) (mark : Char) (digits : List Char) : List Char :=
  (digits.foldr (fun c (made, n) =>
    if n = size then (c :: mark :: made, 1) else (c :: made, n + 1)) ([], 0)).1

/-- The number of characters that digits in groups take. -/
def groupedLength (size digits : Nat) : Nat :=
  digits + (digits - 1) / size

/-- Digits in groups that take at least so many characters, with zeros in front. -/
def groupedTo (size : Nat) (mark : Char) (least : Nat) (digits : List Char) : List Char :=
  let near := least - least / (size + 1) - 1
  let needed := [near, near + 1, near + 2].find? fun n => least ≤ groupedLength size n
  let zeros := needed.getD 0 - digits.length
  grouped size mark (List.replicate zeros '0' ++ digits)

/-- The sign of a number, as a specification asks for it. -/
def signText (s : Specification) (negative : Bool) : List Char :=
  if negative then ['-']
  else
    match s.sign with
    | some '+' => ['+']
    | some ' ' => [' ']
    | _ => []

/-- A number of which the parts are given. -/
def assembled (s : Specification) (negative : Bool) (mark digits tail : List Char) : List Char :=
  let front := s.signText negative ++ mark
  let least :=
    if s.fill = '0' && s.alignment = .inside then
      s.width.getD 0 - (front.length + tail.length)
    else 0
  let size := if ['b', 'o', 'x', 'X'].contains (s.code.getD ' ') then 4 else 3
  let digits :=
    match digits, s.separator with
    | [], _ => []
    | digits, some c => groupedTo size c least digits
    | digits, none => List.replicate (least - digits.length) '0' ++ digits
  s.padded front (digits ++ tail)

/-- A whole number as one character. -/
def character (s : Specification) (n : Int) : Except LayoutFault (List Char) :=
  if s.sign.isSome then .error .signInCharacter
  else if s.alternate then .error .alternateInCharacter
  else if n < -9223372036854775808 || 9223372036854775807 < n then .error .longRange
  else if n < 0 || 0x110000 ≤ n then .error .characterRange
  else .ok (s.assembled false [] [] [Char.ofNat n.toNat])

/-- A whole number in some base. -/
def inBase (s : Specification) (base : Nat) (n : Int) : List Char :=
  let upper := s.code = some 'X'
  let digits := Nat.toDigits base n.natAbs
  let mark := if s.alternate && base ≠ 10 then ['0', s.code.getD ' '] else []
  s.assembled (n < 0) mark (if upper then digits.map Char.toUpper else digits) []

/-- The form of a real number; `usual` is that of one for which no form is asked. -/
def form? (s : Specification) (usual : Number.Form) : Option Number.Form :=
  match s.code with
  | none => some (if s.precision.isSome then .general else usual)
  | some c =>
    if c = 'f' || c = 'F' || c = '%' then some .fixed
    else if c = 'e' || c = 'E' then some .exponent
    else if c = 'g' || c = 'G' || c = 'n' then some .general
    else none

/-- A real number in a form; `showsReal` keeps a digit behind the point of a whole number. -/
def realText (s : Specification) (form : Number.Form) (showsReal : Bool) (x : Float) : List Char :=
  let percent := s.code = some '%'
  let layout : Number.Layout :=
    ⟨form, s.precision.getD 6, s.alternate, showsReal, s.dropsSign⟩
  let text := layout.written (if percent then x * 100.0 else x)
  let text := if ['E', 'F', 'G'].contains (s.code.getD ' ') then text.map Char.toUpper else text
  let negative := text.head? = some '-'
  let text := if negative then text.drop 1 else text
  let digits := text.takeWhile Char.isDigit
  s.assembled negative [] digits (text.drop digits.length ++ if percent then ['%'] else [])

/-- A real number. -/
def ofReal (s : Specification) (kind : String) (x : Float) : Except LayoutFault (List Char) :=
  if 2147483647 < s.precision.getD 0 then .error .precisionRange
  else
    match s.form? .shortest with
    | none => .error (.code (s.code.getD ' ') kind)
    | some form => .ok (s.realText form s.code.isNone x)

/-- A complex number. Its parts are written without padding, the second one with a sign. Where no
form is asked for, a first part of zero is left out, and else there are brackets around both. -/
def ofComplex (s : Specification) (kind : String) (x y : Float) : Except LayoutFault (List Char) :=
  match s.form? .shortest, s.code with
  | some form, code =>
    if code = some '%' then .error (.code '%' kind)
    else if 2147483647 < s.precision.getD 0 then .error .precisionRange
    else if s.fill = '0' then .error .zerosInComplex
    else if s.alignment = .inside then .error .insideInComplex
    else
      let part : Specification := { s with fill := ' ', alignment := .left, width := none }
      let lone := code.isNone && x.toBits == 0
      let front := if lone then [] else part.realText form false x
      let back := { part with sign := if lone then s.sign else some '+' }.realText form false y
      let body := front ++ back ++ ['j']
      .ok (s.padded [] (if code.isNone && !lone then '(' :: body ++ [')'] else body))
  | none, code => .error (.code (code.getD ' ') kind)

/-- A whole number. -/
def ofWhole (s : Specification) (kind : String) (n : Int) : Except Fault (List Char) :=
  let whole (base : Nat) : Except Fault (List Char) :=
    if s.precision.isSome then .error (.layout .precisionInWhole)
    else if s.dropsSign then .error (.layout .zeroInWhole)
    else if base = 10 && Value.shownLimit ≤ n.natAbs then .error .overlong
    else .ok (s.inBase base n)
  match s.code with
  | some 'd' | some 'n' | none => whole 10
  | some 'b' => whole 2
  | some 'o' => whole 8
  | some 'x' | some 'X' => whole 16
  | some 'c' =>
    if s.precision.isSome then .error (.layout .precisionInWhole)
    else if s.dropsSign then .error (.layout .zeroInWhole)
    else (s.character n).mapError .layout
  | some c =>
    if "eEfFgG%".toList.contains c then
      match Number.ofInt? n with
      | some x => (s.ofReal kind x).mapError .layout
      | none => .error (.operator .floatRange)
    else .error (.layout (.code c kind))

end Specification

namespace Value

/-- Writes a value as a specification asks, where there is room. -/
def writtenBy (v : Value) (s : Specification) : Except Fault (List Char) := do
  let kind := v.kind.name
  match v, v.whole? with
  | real x _, _ => (s.ofReal kind x).mapError .layout
  | text t _, _ | markup t, _ =>
    if s.code ≠ some 's' then throw (.layout (.code (s.code.getD ' ') kind))
    if let some sign := s.sign then throw (.layout (.signInText (sign = ' ')))
    if s.dropsSign then throw (.layout .zeroInText)
    if s.alternate then throw (.layout .alternateInText)
    if s.alignment = .inside then throw (.layout .insideInText)
    return s.padded [] ((s.precision.map t.toList.take).getD t.toList)
  | _, some n => s.ofWhole kind n
  | complex x y, _ => (s.ofComplex kind x y).mapError .layout
  | _, none => throw (.layout (.notForKind kind))

/-- The alignment and the form that a value has where a specification asks for none. -/
def usualForm? (v : Value) : Option (Alignment × Option Char) :=
  match v, v.whole? with
  | text .., _ | markup _, _ => some (.left, some 's')
  | real .., _ | complex .., _ => some (.right, none)
  | _, some _ => some (.right, some 'd')
  | _, none => none

/-- Writes a value as a specification asks. -/
def formatted (v : Value) (specification : List Char) : Except Fault (List Char) := do
  let kind := v.kind.name
  if specification.isEmpty then
    if v.isOverlong then throw .overlong else return v.plainText.toList
  else
    match v.usualForm? with
    | none => throw (.layout (.notForKind kind))
    | some (usual, code) =>
      let s ← (Specification.read kind usual code specification).mapError .layout
      let ends := v.text?.isSome || (s.form? .shortest = some .general && !s.alternate)
      let precision := if ends then 0 else s.precision.getD 0
      match Room.ask (max (s.width.getD 0) (if precision ≤ 2147483647 then precision else 0)) with
      | .ok () => v.writtenBy s
      | .error e =>
        let _ ← v.writtenBy { s with width := none, precision := s.precision.map (min 1) }
        throw e

end Value

end TagCloud.Template
