import TagCloud.Template.Attribute
import TagCloud.Template.Format.Number
import TagCloud.Text.Quoted

/-!
# Texts with fields

A field stands between braces: the name of an argument, a conversion behind an exclamation mark, and
a specification behind a colon, which may hold fields itself. The arguments are named by their
places or by their names; fields without a name take the next place. Behind the name there may be
attributes and keys in brackets.

A text is read from left to right, and each field is filled before the next one is read, so what is
wrong on the left is found first. In markup, whatever is filled in is escaped, and the rules for
names are less strict: only a field that is nothing but a place counts for the numbering.
-/

namespace TagCloud.Template

open TagCloud.Text

/-- A field as it is written. -/
structure Field where
  name : List Char
  conversion : Option Char
  specification : List Char
  deriving Repr, DecidableEq

/-- How the fields of a text have been numbered so far. -/
inductive Numbering where
  | unknown
  | automatic (next : Nat)
  | manual
  deriving Repr, DecidableEq

/-- What fields are filled from: the arguments by their places, which may not be allowed, and those
by their names. -/
structure Filling where
  row : Option (List Value)
  named : String → Except Fault Value
  escapes : Bool

namespace Field

/-- The name of a field, the sign that ends it, and what follows. A sign in brackets ends
nothing. -/
def nameAt : (inBrackets : Bool) → List Char → Except FieldFault (List Char × Char × List Char)
  | _, [] => .error .unclosed
  | true, c :: cs => (nameAt (c ≠ ']') cs).map fun (name, rest) => (c :: name, rest)
  | false, c :: cs =>
    if c = '\x7b' then .error .openingInName
    else if c = '\x7d' || c = ':' || c = '!' then .ok ([], c, cs)
    else (nameAt (c = '[') cs).map fun (name, rest) => (c :: name, rest)

/-- A specification up to the brace that closes its field, and what follows. -/
def specificationAt : (depth : Nat) → List Char → Except FieldFault (List Char × List Char)
  | _, [] => .error .unclosedSpecification
  | depth, c :: cs =>
    let keep (depth : Nat) := (specificationAt depth cs).map fun (text, rest) => (c :: text, rest)
    if c = '\x7b' then keep (depth + 1)
    else if c = '\x7d' then
      match depth with
      | 0 => .ok ([], cs)
      | depth + 1 => keep depth
    else keep depth

/-- Reads a field behind its opening brace, and what follows it. -/
def read (cs : List Char) : Except FieldFault (Field × List Char) := do
  let (name, ending, cs) ← nameAt false cs
  let behind (conversion : Option Char) (cs : List Char) := do
    let (specification, rest) ← specificationAt 0 cs
    return (Field.mk name conversion specification, rest)
  if ending = '\x7d' then return (⟨name, none, []⟩, cs)
  else if ending = ':' then behind none cs
  else
    match cs with
    | [] => throw .noConversion
    | c :: '\x7d' :: cs => return (⟨name, some c, []⟩, cs)
    | c :: ':' :: cs => behind (some c) cs
    | _ :: _ :: _ => throw .behindConversion
    | [_] => throw .unclosedSpecification

/-- A part of the name of a field behind its argument. -/
inductive Part where
  | attribute (name : List Char)
  | key (name : List Char)
  deriving Repr, DecidableEq

/-- The argument in the name of a field, and the parts behind it. -/
def argument (name : List Char) : List Char × List Char :=
  let first := name.takeWhile fun c => c ≠ '.' && c ≠ '['
  (first, name.drop first.length)

/-- Reads the part at the front of a name. -/
def partAt (cs : List Char) : Except FieldFault (Part × List Char) :=
  match cs with
  | '.' :: cs =>
    let (name, rest) := argument cs
    if name.isEmpty then .error .emptyPart else .ok (.attribute name, rest)
  | '[' :: cs =>
    let name := cs.takeWhile (· ≠ ']')
    match cs.drop name.length with
    | [] => .error .openBracket
    | _ :: rest => if name.isEmpty then .error .emptyPart else .ok (.key name, rest)
  | _ => .error .behindBracket

/-- The place that a name is, if it consists of digits. -/
def place? (name : List Char) : Except Fault (Option Nat) :=
  if name.isEmpty || !name.all isDigit then .ok none
  else if Specification.numberLimit < number name then .error (.layout .tooManyDigits)
  else .ok (some (number name))

end Field

namespace Value

/-- The attribute of a value, which has to have it. -/
def attributeNamed (v : Value) (name : String) : Except Fault Value :=
  match v with
  | undefined complaint => .error (.undefined complaint)
  | v =>
    match v.attribute? name with
    | some w => .ok w
    | none => .error (v.lacking name)

/-- A value shown with every character beyond ASCII by its number. -/
def asciiShown (v : Value) : String :=
  String.ofList (v.shown.toList.flatMap fun c => if 128 ≤ c.toNat then numberEscape c else [c])

/-- What the parts of a name lead to, from a value on. -/
def followed : (fuel : Nat) → Value → List Char → Except Fault Value
  | 0, v, _ => .ok v
  | fuel + 1, v, cs => do
    if cs.isEmpty then return v
    let (part, rest) ← (Field.partAt cs).mapError .field
    let w ←
      match part with
      | .attribute name => v.attributeNamed (String.ofList name)
      | .key name =>
        match ← Field.place? name with
        | some n => v.element (whole (Int.ofNat n))
        | none => v.element (text (String.ofList name))
    followed fuel w rest

end Value

namespace Filling

/-- The numbering behind a field for which the argument in a place is taken, and that place. -/
def numbered (f : Filling) (n : Numbering) (field : Field) :
    Except Fault (Option Nat × Numbering) := do
  let (first, rest) := Field.argument field.name
  let place ← Field.place? first
  let simple := !f.escapes || rest.isEmpty
  match first.isEmpty && simple, place, n with
  | true, _, .manual => throw (.field .toAutomatic)
  | true, _, .automatic next => return (some next, .automatic (next + 1))
  | true, _, .unknown => return (some 0, .automatic 1)
  | false, some k, .automatic _ =>
    if simple then throw (.field (if f.escapes then .toAutomatic else .toManual))
    return (some k, n)
  | false, some k, _ => return (some k, if simple then .manual else n)
  | false, none, _ => return (none, n)

/-- The argument that a field names. -/
def argument (f : Filling) (place : Option Nat) (field : Field) : Except Fault Value := do
  let (first, rest) := Field.argument field.name
  let v ←
    match place, f.row with
    | some _, none => throw (.field .positional)
    | some k, some row =>
      match row[k]? with
      | some v => pure v
      | none => throw (.field (if f.escapes then .noPlace else .noArgument k))
    | none, _ => f.named (String.ofList first)
  v.followed (rest.length + 1) rest

/-- A value as the conversion of its field asks. -/
def converted (conversion : Option Char) (v : Value) : Except Fault Value :=
  let made (s : String) : Except Fault Value :=
    if v.isOverlong then .error .overlong else .ok (.text s)
  match conversion with
  | none => .ok v
  | some 's' => made v.plainText
  | some 'r' => made v.shown
  | some 'a' => made v.asciiShown
  | some c => .error (.field (.conversion c))

/-- A value in its field. -/
def writtenIn (f : Filling) (v : Value) (specification : List Char) : Except Fault (List Char) :=
  if f.escapes then
    match v with
    | .markup s =>
      if specification.isEmpty then .ok s.toList else .error (.field .markupSpecification)
    | v => (v.formatted specification).map fun cs => cs.flatMap escapedChar
  else v.formatted specification

/-- The beginning of a text as it is filled: its characters, and whether it is nothing but a piece
of markup that fills the last field as it is. -/
structure Filled where
  chars : List Char
  isPiece : Bool

/-- What a field adds in front of what follows it. A text that is filled by nothing but a piece of
markup stays markup if there is a specification that leaves it as it is. -/
def Filled.behind (more : Filled) (v : Value) (specification text : List Char) (isLast : Bool) :
    Filled :=
  match v with
  | .markup s =>
    ⟨text ++ more.chars, (isLast && !specification.isEmpty && !text.isEmpty && text = s.toList)
      || (text.isEmpty && more.isPiece)⟩
  | _ => ⟨text ++ more.chars, text.isEmpty && more.isPiece⟩

/-- Fills the fields of a text, of which the specifications are filled by `expand`. -/
def filledBy (f : Filling) (expand : Numbering → List Char → Except Fault (Filled × Numbering)) :
    (fuel : Nat) → Numbering → List Char → Except Fault (Filled × Numbering)
  | 0, n, _ => .ok (⟨[], false⟩, n)
  | fuel + 1, n, cs => do
    let kept (c : Char) (rest : List Char) : Except Fault (Filled × Numbering) :=
      (filledBy f expand fuel n rest).map fun (more, n) => (⟨c :: more.chars, false⟩, n)
    match cs with
    | [] => return (⟨[], false⟩, n)
    | '\x7b' :: '\x7b' :: cs => kept '\x7b' cs
    | '\x7d' :: '\x7d' :: cs => kept '\x7d' cs
    | ['\x7b'] => throw (.field .lonelyOpening)
    | '\x7d' :: _ => throw (.field .lonelyClosing)
    | '\x7b' :: cs =>
      let (field, rest) ← (Field.read cs).mapError .field
      let (place, n) ← f.numbered n field
      let v ← converted field.conversion (← f.argument place field)
      let (specification, n) ←
        if f.escapes || field.specification.contains '\x7b' then
          (expand n field.specification).map fun (filled, n) => (filled.chars, n)
        else pure (field.specification, n)
      let text ← f.writtenIn v specification
      let (more, n) ← filledBy f expand fuel n rest
      return (more.behind v specification text rest.isEmpty, n)
    | c :: cs => kept c cs

/-- Fills the fields of a text, in which specifications with fields may be nested so deep. -/
def filled (f : Filling) : (depth : Nat) → Numbering → List Char →
    Except Fault (Filled × Numbering)
  | 0, _, _ => .error (.field .tooDeep)
  | depth + 1, n, cs => f.filledBy (filled f depth) (cs.length + 1) n cs

/-- A text with its fields filled. In markup the specification of each field is filled, be it
without fields. -/
def fill (f : Filling) (cs : List Char) : Except Fault Value := do
  let (filled, _) ← f.filled (if f.escapes then 3 else 2) .unknown cs
  let s := String.ofList filled.chars
  return if f.escapes || filled.isPiece then .markup s else .text s

end Filling

end TagCloud.Template
