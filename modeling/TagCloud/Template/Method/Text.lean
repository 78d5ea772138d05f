import TagCloud.Template.Format.Field
import TagCloud.Template.Method.Coding
import TagCloud.Template.Method.Search
import TagCloud.Template.Method.Taking
import TagCloud.Text.Case
import TagCloud.Text.Identifier
import TagCloud.Text.Numeric
import TagCloud.Text.Padding
import TagCloud.Text.Printable

/-!
# The methods of texts

All methods of texts but two take their arguments as methods do. The fields of a text are filled
from whatever is given, by its place or by its name, or from a value that has members.
-/

namespace TagCloud.Template

/-!
## Methods that ask for the nature of a text

A text is of a nature if it has characters and all of them are of that nature. Only plain characters
and those that can be seen are also found in a text without any.
-/

namespace Nature

/-- A text that has characters, all of which are of a nature. -/
def throughout (is : Char → Bool) (cs : List Char) : Bool :=
  !cs.isEmpty && cs.all is

/-- The natures of texts, by the names of their methods. -/
def natures : List (String × (List Char → Bool)) :=
  [ ("isalnum", throughout fun c => Text.isWord c && c ≠ '_'),
    ("isalpha", throughout Text.isLetter),
    ("isascii", fun cs => cs.all fun c => c.toNat < 128), ("isdecimal", throughout Text.isDigit),
    ("isdigit", throughout Text.isAnyDigit), ("isidentifier", Text.isIdentifier),
    ("islower", Text.isLowerText), ("isnumeric", throughout Text.isNumeric),
    ("isprintable", fun cs => cs.all Text.isPrintable), ("isspace", throughout Text.isBlank),
    ("istitle", Text.isTitledText), ("isupper", Text.isUpperText) ]

/-- The methods that ask for the nature of a text. -/
def methods : Methods String Value :=
  natures.map fun (name, is) => Methods.plain name fun s => .bool (is s.toList)

end Nature

/-!
## Methods that take a text apart

A text comes apart at blanks, at the occurrences of a separator, or at the ends of its lines; or it
loses what it begins or ends with. A separator must not be empty.
-/

namespace Division

open Value (argumentCharacters? characters?)

/-- A number of places where a text comes apart; a negative one is no limit. -/
def limit? (v : Option Value) : Except Fault (Option Nat) := do
  let n ← (v.getD (.whole (-1))).amount
  return if n < 0 then none else some n.toNat

/-- The pieces of a text. -/
def split (fromEnd : Bool) : List Char → List (Option Value) → Except Fault (List (List Char))
  | cs, [separator, limit] => do
    let limit ← limit? limit
    match separator with
    | none | some .null =>
      return if fromEnd then Text.fromTheEnd (Text.words limit) cs else Text.words limit cs
    | some v => do
      let separator ← characters? "must be str or None" v
      if separator.isEmpty then throw (.method .emptySeparator)
      return if fromEnd then Text.fromTheEnd (Text.pieces separator.reverse limit) cs
        else Text.pieces separator limit cs
  | _, _ => .error .unsupported

/-- The lines of a text. -/
def lines : List Char → List (Option Value) → Except Fault (List (List Char))
  | cs, [keeps] => do return Text.lines (← (keeps.getD (.bool false)).switch) cs
  | _, _ => .error .unsupported

/-- What stands before a separator, the separator, and what stands behind it. -/
def parts (fromEnd : Bool) (cs : List Char) (v : Value) : Except Fault (List (List Char)) := do
  let separator ← characters? "must be str" v
  if separator.isEmpty then throw (.method .emptySeparator)
  let place? := if fromEnd then Text.lastAt? separator cs else Text.firstAt? separator cs
  match place? with
  | some n => return [cs.take n, separator, cs.drop (n + separator.length)]
  | none => return if fromEnd then [[], [], cs] else [cs, [], []]

/-- A text without some characters at one of its ends or at both. -/
def stripped (name : String) (left right : Bool) : List Char → List (Option Value) →
    Except Fault (List Char)
  | cs, [chars] => do
    let drops ←
      match chars with
      | none | some .null => pure Text.isBlank
      | some v =>
        match v.text? with
        | some chars => pure chars.toList.contains
        | none => throw (.method (.padding name))
    let cs := if left then cs.dropWhile drops else cs
    return if right then Text.dropLast drops cs else cs
  | _, _ => .error .unsupported

/-- A text without another one that it begins or ends with. -/
def without (name : String) (atEnd : Bool) (cs : List Char) (v : Value) :
    Except Fault (List Char) := do
  let part ← argumentCharacters? (name ++ "() argument") v
  if atEnd then return if part.isSuffixOf cs then cs.take (cs.length - part.length) else cs
  else return if part.isPrefixOf cs then cs.drop part.length else cs

/-- A method that makes texts of a text. -/
def toTexts (taking : Taking)
    (f : List Char → List (Option Value) → Except Fault (List (List Char))) :
    Method String Value :=
  ⟨taking, fun s vs => do return .ofTexts (← f s.toList vs)⟩

/-- A method that makes a text of a text. -/
def toText (taking : Taking) (f : List Char → List (Option Value) → Except Fault (List Char)) :
    Method String Value :=
  ⟨taking, fun s vs => do return .ofChars (← f s.toList vs)⟩

/-- A method of one argument that makes three texts of a text. -/
def toParts (fromEnd : Bool) : Method String Value :=
  ⟨.one, fun
    | s, [some v] => do return .tuple ((← parts fromEnd s.toList v).map .ofChars)
    | _, _ => .error .unsupported⟩

/-- A method of one argument that makes a text of a text. -/
def toRest (name : String) (atEnd : Bool) : Method String Value :=
  ⟨.one, fun
    | s, [some v] => do return .ofChars (← without name atEnd s.toList v)
    | _, _ => .error .unsupported⟩

/-- The methods that take a text apart. -/
def methods : Methods String Value :=
  [ ("split", toTexts (.named 0 2 ["sep", "maxsplit"]) (split false)),
    ("rsplit", toTexts (.named 0 2 ["sep", "maxsplit"]) (split true)),
    ("splitlines", toTexts (.named 0 1 ["keepends"]) lines),
    ("partition", toParts false), ("rpartition", toParts true),
    ("strip", toText (.row 0 1) (stripped "strip" true true)),
    ("lstrip", toText (.row 0 1) (stripped "lstrip" true false)),
    ("rstrip", toText (.row 0 1) (stripped "rstrip" false true)),
    ("removeprefix", toRest "removeprefix" false), ("removesuffix", toRest "removesuffix" true) ]

end Division

/-!
## Methods that put other texts into a text

The occurrences of a text are replaced, each character is replaced by what a table has for it, and
the items of a value are joined with a text between them. A table is a dictionary with the numbers
of characters as its keys, or anything else that has items in places.
-/

namespace Replacement

open Value (argumentCharacters?)

/-- A text with the occurrences of another one replaced. -/
def replaced : List Char → List (Option Value) → Except Fault (List Char)
  | cs, [some old, some new, limit] => do
    let old ← argumentCharacters? "replace() argument 1" old
    let new ← argumentCharacters? "replace() argument 2" new
    let n ← (limit.getD (.whole (-1))).amount
    return Text.replaced old new (if n < 0 then none else some n.toNat) cs
  | _, _ => .error .unsupported

/-- Texts with another one between them; the first of the texts stands in some place of a row. -/
def joinedFrom (separator : List Char) (place : Nat) : List Value → Except Fault (List Char)
  | [] => .ok []
  | v :: vs =>
    match v.text? with
    | none => .error (.method (.joinedItem place v.kind.name))
    | some s => do
      let rest ← joinedFrom separator (place + 1) vs
      return s.toList ++ if vs.isEmpty then rest else separator ++ rest

/-- The items of a value joined with a text between them. -/
def joined (separator : List Char) (v : Value) : Except Fault (List Char) := do
  if !v.isWalkable then throw (.method .notJoinable)
  joinedFrom separator 0 (← v.items)

/-- What a table has for a character. -/
def mapped (table : Value) (c : Char) : Except Fault (List Char) :=
  match table.element (.whole (Int.ofNat c.toNat)) with
  | .error (.noKey _) | .error (.noIndex _) => .ok [c]
  | .error e => .error e
  | .ok .null => .ok []
  | .ok v =>
    match v.whole?, v.text? with
    | some n, _ =>
      if n < 0 || 0x110000 ≤ n then .error (.method .mappedRange) else .ok [Char.ofNat n.toNat]
    | none, some s => .ok s.toList
    | none, none => .error (.method .mapped)

/-- A text with what a table has for its characters. -/
def mappedText (cs : List Char) (table : Value) : Except Fault (List Char) := do
  return (← cs.mapM (mapped table)).flatten

/-- The member of a table for a key of another one. -/
def tableMember (key v : Value) : Except Fault (Value × Value) :=
  match key.text?, key.whole? with
  | some s, _ =>
    match s.toList with
    | [c] => .ok (.whole (Int.ofNat c.toNat), v)
    | _ => .error (.method .tableKeyLength)
  | none, some _ => .ok (key, v)
  | none, none => .error (.method .tableKey)

/-- A table for the characters of texts. -/
def table : List (Option Value) → Except Fault Value
  | [some (.dictionary _ members), none, none] => do
    Value.ofMembers (← members.mapM fun (k, v) => tableMember k v)
  | [some _, none, none] => .error (.method .lonelyTable)
  | [some old, some new, gone] => do
    let new ← argumentCharacters? "maketrans() argument 2" new
    let gone ←
      match gone with
      | none => pure []
      | some v => argumentCharacters? "maketrans() argument 3" v
    let some old := old.text?
      | throw (.method .tableText)
    if old.length ≠ new.length then throw (.method .tableLengths)
    let number (c : Char) : Value := .whole (Int.ofNat c.toNat)
    Value.ofMembers ((old.toList.zip new).map (fun (a, b) => (number a, number b))
      ++ gone.map fun c => (number c, .null))
  | _ => .error .unsupported

/-- The methods that put other texts into a text. -/
def methods : Methods String Value :=
  [ ("replace", ⟨.row 2 3, fun s vs => do return .ofChars (← replaced s.toList vs)⟩),
    Methods.single "join" fun s v => do return v.single.kept (.ofChars (← joined s.toList v)),
    Methods.single "translate" fun s v => do return .ofChars (← mappedText s.toList v),
    ("maketrans", ⟨.row 1 3, fun _ vs => table vs⟩) ]

end Replacement

/-!
## Methods that give a text another shape

A text changes its case, or it is put into a width. A width that the text has reached already leaves
it as it is.
-/

namespace Shape

/-- A width, for which there has to be room. -/
def width (ask : Nat → Except Fault Unit) (v : Value) : Except Fault Nat := do
  let n := (← v.amount).toNat
  ask n
  return n

/-- The character that a text is padded with. -/
def fill : Option Value → Except Fault Char
  | none => .ok ' '
  | some v =>
    match v.text? with
    | none =>
      .error (.method (.wanted "The fill character must be a unicode character" v.kind.name))
    | some s =>
      match s.toList with
      | [c] => .ok c
      | _ => .error (.method .fillWidth)

/-- A text in a width. -/
def inWidth (f : Nat → Char → List Char → List Char) :
    List Char → List (Option Value) → Except Fault (List Char)
  | cs, [some v, c] => do
    let n := (← v.amount).toNat
    let c ← fill c
    Room.ask n
    return f n c cs
  | _, _ => .error .unsupported

/-- A text filled up with zeros. -/
def zeroFilled (ask : Nat → Except Fault Unit) (cs : List Char) (v : Value) :
    Except Fault (List Char) := do
  return Text.zeroFilled (← width ask v) cs

/-- A text with its tabs expanded. -/
def expanded : List Char → List (Option Value) → Except Fault (List Char)
  | cs, [size] => do
    let n ← (size.getD (.whole 8)).within 32 .switchRange
    Room.ask (n.toNat * cs.count '\t')
    return Text.expanded n.toNat cs
  | _, _ => .error .unsupported

/-- A text with its first character as at the beginning of a word. -/
def capitalized (cs : List Char) : List Char :=
  (Text.capitalized (String.ofList cs)).toList

/-- A text in upper case. -/
def upper (cs : List Char) : List Char :=
  cs.flatMap Text.upperChar

/-- A text in lower case. -/
def lower (cs : List Char) : List Char :=
  Text.lowerAfter [] cs

/-- A text without its case. -/
def folded (cs : List Char) : List Char :=
  cs.flatMap Text.folded

/-- The changes of case, by the names of their methods. -/
def cases : List (String × (List Char → List Char)) :=
  [ ("capitalize", capitalized), ("casefold", folded), ("lower", lower), ("upper", upper),
    ("swapcase", Text.swapped), ("title", Text.wordsTitled) ]

/-- The ways to stand in a width, by the names of their methods. -/
def widths : List (String × (Nat → Char → List Char → List Char)) :=
  [("center", Text.centeredIn), ("ljust", Text.leftIn), ("rjust", Text.rightIn)]

/-- The methods that give a text another shape. -/
def methods : Methods String Value :=
  (cases.map fun (name, f) => Methods.plain name fun s => .ofChars (f s.toList))
    ++ (widths.map fun (name, f) =>
      (name, ⟨.row 1 2, fun s vs => do return .ofChars (← inWidth f s.toList vs)⟩))
    ++ [ Methods.single "zfill" fun s v => do return .ofChars (← zeroFilled Room.ask s.toList v),
        ("expandtabs", ⟨.named 0 1 ["tabsize"], fun s vs => do
          return .ofChars (← expanded s.toList vs)⟩) ]

end Shape

/-! ## All methods of texts -/

namespace Value

/-- The methods of texts. -/
def textTable : Methods String Value :=
  Search.methods ++ Division.methods ++ Shape.methods ++ Nature.methods ++ Replacement.methods
    ++ Coding.methods

/-- A text with its fields filled from a call. -/
def fieldsFilled (escapes : Bool) (s : String) (c : Call) : Except Fault Value :=
  let named (name : String) : Except Fault Value :=
    match Dictionary.get? name c.named with
    | some v => .ok v
    | none => .error (.noKey (Text.quoted name))
  (Template.Filling.mk (some c.row) named escapes).fill s.toList

/-- A text with its fields filled from the members of a value. -/
def fieldsMapped (escapes : Bool) (s : String) (v : Value) : Except Fault Value :=
  let row := if escapes then some [] else none
  (Template.Filling.mk row (fun name => v.element (text name)) escapes).fill s.toList

/-- Calls a method of a text, whose kind messages name. -/
def callTextOf (k : Kind) (s name : String) (c : Call) : Except Fault Value := do
  match name with
  | "format" => fieldsFilled false s c
  | "format_map" =>
    let method : Method String Value := ⟨.one, fun
      | s, [some v] => fieldsMapped false s v
      | _, _ => .error .unsupported⟩
    Methods.call [(name, method)] k.name name s c
  | name => Methods.call textTable k.name name s c

/-- Calls a method of a text. -/
def callText : String → String → Call → Except Fault Value :=
  callTextOf .text

end Value

end TagCloud.Template
