import TagCloud.Template.Filter.Rule
import TagCloud.Template.Sequence

/-!
# Filters that write out values

A value can be written as JSON, with the members of dictionaries in the order of their keys and with
the characters of markup as escapes; or as expressions show it, broken into lines where it is too
long for one.
-/

namespace TagCloud.Template

namespace Filter

open Signature (needed usually)

/-! ## JSON -/

/-- A character in a JSON text of plain characters. -/
def jsonChar (c : Char) : List Char :=
  let unit (n : Nat) : List Char := '\\' :: 'u' :: Text.hexDigits 4 n
  let n := c.toNat
  if c = '"' || c = '\\' then ['\\', c]
  else if c = '\n' then ['\\', 'n'] else if c = '\r' then ['\\', 'r']
  else if c = '\t' then ['\\', 't'] else if n = 8 then ['\\', 'b'] else if n = 12 then ['\\', 'f']
  else if 32 ≤ n && n < 127 then [c]
  else if n < 0x10000 then unit n
  else unit (0xD800 + (n - 0x10000) / 0x400) ++ unit (0xDC00 + (n - 0x10000) % 0x400)

/-- A text as JSON. -/
def jsonText (s : String) : String :=
  String.ofList ('"' :: s.toList.flatMap jsonChar ++ ['"'])

/-- A real number as JSON. -/
def jsonReal (x : Float) : String :=
  if x.isNaN then "NaN" else if x.isInf then (if x < 0 then "-Infinity" else "Infinity")
  else Number.shortest x

/-- A value without parts as JSON. -/
def jsonScalar? : Value → Option String
  | .null => some "null"
  | .bool b => some (if b then "true" else "false")
  | .whole n _ => some (toString n)
  | .real x _ => some (jsonReal x)
  | .text s _ | .markup s => some (jsonText s)
  | _ => none

/-- A key as JSON. -/
def jsonKey (v : Value) : Except Fault String :=
  match v, jsonScalar? v with
  | .text s _, _ | .markup s, _ => .ok (jsonText s)
  | v, some s => if v.isOverlong then .error .overlong else .ok (jsonText s)
  | v, none => .error (.filter (.keyKind v.kind.name))

/-- What stands around and between the items of a JSON value so deep inside others. -/
structure JsonLines where
  unit : Option String

namespace JsonLines

/-- A new line so deep, if there are lines. -/
def newline (l : JsonLines) (depth : Nat) : String :=
  match l.unit with
  | none => ""
  | some unit => "\n" ++ String.join (List.replicate depth unit)

/-- Items between brackets. -/
def bracketed (l : JsonLines) (depth : Nat) (opening closing : String) (items : List String) :
    String :=
  if items.isEmpty then opening ++ closing
  else
    let comma := if l.unit.isSome then "," else ", "
    opening ++ l.newline (depth + 1) ++ (comma ++ l.newline (depth + 1)).intercalate items
      ++ l.newline depth ++ closing

end JsonLines

mutual

/-- A value as JSON, so deep inside others. -/
def json (l : JsonLines) (depth : Nat) (v : Value) : Except Fault String :=
  match v with
  | .list _ vs | .tuple vs => do
    return l.bracketed depth "[" "]" (← jsonItems l (depth + 1) vs)
  | .group k vs => do
    let items ← jsonItems l (depth + 2) vs
    return l.bracketed depth "[" "]"
      [← json l (depth + 1) k, l.bracketed (depth + 1) "[" "]" items]
  | .dictionary _ members => do
    let texts ← jsonMembers l (depth + 1) members
    let sorted ← Sorting.byKeys false texts
    return l.bracketed depth "\x7b" "\x7d" (← sorted.mapM id)
  | v =>
    match jsonScalar? v with
    | some s => if v.isOverlong then .error .overlong else .ok s
    | none => .error (.filter (.notWritten ((v.kind.name.splitOn ".").getLastD "")))

/-- The items of a row as JSON. -/
def jsonItems (l : JsonLines) (depth : Nat) : List Value → Except Fault (List String)
  | [] => .ok []
  | v :: vs => do
    let s ← json l depth v
    return s :: (← jsonItems l depth vs)

/-- The keys of members, with what writes the members as JSON. -/
def jsonMembers (l : JsonLines) (depth : Nat) :
    Members → Except Fault (List (Value × Except Fault String))
  | [] => .ok []
  | (k, v) :: rest => do
    let text := do return (← jsonKey k) ++ ": " ++ (← json l depth v)
    return (k, text) :: (← jsonMembers l depth rest)

end

/-- JSON that can stand in HTML. -/
def jsonEscaped (c : Char) : List Char :=
  if c = '<' || c = '>' || c = '&' || c = '\x27' then '\\' :: 'u' :: Text.hexDigits 4 c.toNat
  else [c]

/-- What lines are indented with, step by step; nothing if there is to be one line. A text is one
line whatever is asked for. -/
def indentionUnit? (v indent : Value) : Except Fault (Option String) := do
  if v.text?.isSome then return none
  match indent, indent.text? with
  | .null, _ => return none
  | _, some s => return some s
  | indent, none => return (← Value.operate .mul (.text " ") indent).text?

/-- A value as JSON that can stand in HTML. -/
def asJson (v indent : Value) : Except Fault Value := do
  let s ← json ⟨← indentionUnit? v indent⟩ 0 v
  return .markup (String.ofList (s.toList.flatMap jsonEscaped))

/-! ## Lines of a value -/

/-- Two keys are in order; those that cannot be compared are in the order of their classes. -/
def safelyBefore (v w : Value) : Except Fault Bool :=
  match Value.inOrder .below v w with
  | .ok b => .ok b
  | .error _ => .ok ((Value.shownBuiltin (.ofKind v.kind)) < (Value.shownBuiltin (.ofKind w.kind)))

/-- What goes with some keys, in an order of the keys that there always is. -/
def safelySorted {α : Type} (row : List (Value × α)) : List (Value × α) :=
  ((Sorting.sorted (fun a b => safelyBefore a.1 b.1) row).toOption).getD row

mutual

/-- A value with the members of dictionaries in order. -/
def arranged : Value → Value
  | .list h vs => .list h (arrangedItems vs)
  | .tuple vs => .tuple (arrangedItems vs)
  | .dictionary h members => .dictionary h (safelySorted (arrangedMembers members))
  | v => v

/-- Values with the members of dictionaries in order. -/
def arrangedItems : List Value → List Value
  | [] => []
  | v :: vs => arranged v :: arrangedItems vs

/-- Members with those of dictionaries in order. -/
def arrangedMembers : Members → Members
  | [] => []
  | (k, v) :: rest => (arranged k, arranged v) :: arrangedMembers rest

end

/-- The greatest width of a line. -/
def lineWidth : Nat := 80

/-- A text so many characters from the margin. -/
def newlineAt (margin : Nat) : String :=
  "\n" ++ String.ofList (List.replicate margin ' ')

/-- The words of a line, each with the blanks behind it. -/
def wordsWithBlanks (cs : List Char) : List (List Char) :=
  cs.splitBy fun a b => !(Text.isBlank a && !Text.isBlank b)

/-- The pieces of a line of a text, each no longer than `width` if it can be so; `room` is what the
line that ends the text has less. -/
def piecesOfLine (width room : Nat) (isLast : Bool) (current : List Char) :
    List (List Char) → List String
  | [] => if current.isEmpty then [] else [Text.quoted (String.ofList current)]
  | word :: words =>
    let candidate := current ++ word
    let width := if words.isEmpty && isLast then width - room else width
    if width < (Text.quoted (String.ofList candidate)).length then
      (if current.isEmpty then [] else [Text.quoted (String.ofList current)])
        ++ piecesOfLine width room isLast word words
    else piecesOfLine width room isLast candidate words

/-- The pieces of the lines of a text. -/
def piecesOfLines (width room : Nat) : List (List Char) → List String
  | [] => []
  | line :: lines =>
    let shown := Text.quoted (String.ofList line)
    let limit := if lines.isEmpty then width - room else width
    (if shown.length ≤ limit then [shown]
      else piecesOfLine width room lines.isEmpty [] (wordsWithBlanks line))
      ++ piecesOfLines width room lines

/-- A text in pieces, with `room` characters kept free behind the last one. -/
def textInLines (s : String) (margin room : Nat) (outermost : Bool) : String :=
  let margin := if outermost then margin + 1 else margin
  let room := if outermost then room + 1 else room
  match piecesOfLines (lineWidth - margin) room (Text.lines true s.toList) with
  | [] => Text.quoted s
  | [piece] => piece
  | pieces =>
    let body := (newlineAt margin).intercalate pieces
    if outermost then "(" ++ body ++ ")" else body

/-- Bytes in groups of four, of which the last one may be smaller. -/
def groupsOfFour (bs : List UInt8) : List (List UInt8) :=
  (List.range ((bs.length + 3) / 4)).map fun i => (bs.drop (4 * i)).take 4

/-- Groups of bytes in pieces, each no longer than `width` if it can be so; `room` is what a group
of less than four has less. -/
def piecesOfBytes (width room : Nat) (current : List UInt8) : List (List UInt8) → List String
  | [] => if current.isEmpty then [] else [Value.shownBytes current]
  | part :: parts =>
    let candidate := current ++ part
    let width := if part.length < 4 then width - room else width
    if width < (Value.shownBytes candidate).length then
      (if current.isEmpty then [] else [Value.shownBytes current])
        ++ piecesOfBytes width room part parts
    else piecesOfBytes width room candidate parts

/-- Bytes in pieces, with `room` characters kept free behind the last one. -/
def bytesInLines (bs : List UInt8) (margin room : Nat) (outermost : Bool) : String :=
  let margin := if outermost then margin + 1 else margin
  let room := if outermost then room + 1 else room
  if bs.length ≤ 4 then Value.shownBytes bs
  else
    let pieces := piecesOfBytes (lineWidth - margin) room [] (groupsOfFour bs)
    let body := (newlineAt margin).intercalate pieces
    if outermost then "(" ++ body ++ ")" else body

/-- Items of a set in the order of their values, each with how it is written if others follow and
how it is written as the last one. -/
def rowOfSet (margin : Nat) (row : List (Value × String × String)) : String :=
  let row := (safelySorted row).map (·.2)
  let last := (row.getLast?.map (·.2)).toList
  ("," ++ newlineAt margin).intercalate (row.dropLast.map (·.1) ++ last)

mutual

/-- A value in lines, with its first line so far from the margin and `room` characters kept free
behind its last one. -/
def inLines (outermost : Bool) (margin room : Nat) (v : Value) : String :=
  if v.shown.length ≤ lineWidth - margin - room then v.shown
  else
    match v with
    | .list _ vs => "[" ++ itemsInLines (margin + 1) (room + 1) vs ++ "]"
    | .tuple vs =>
      let closing := if vs.length = 1 then ",)" else ")"
      "(" ++ itemsInLines (margin + 1) (room + closing.length) vs ++ closing
    | .dictionary _ members => "\x7b" ++ membersInLines (margin + 1) (room + 1) members ++ "\x7d"
    | .set _ frozen vs =>
      let (opening, closing) := if frozen then ("frozenset(\x7b", "\x7d)") else ("\x7b", "\x7d")
      let margin := margin + opening.length
      opening ++ rowOfSet margin (itemsOfSet margin (room + closing.length) vs) ++ closing
    | .text s _ => textInLines s margin room outermost
    | .bytes bs => bytesInLines bs margin room outermost
    | v => v.shown

/-- The items of a set in lines, each as an item that others follow and as the last one. -/
def itemsOfSet (margin room : Nat) : List Value → List (Value × String × String)
  | [] => []
  | v :: vs =>
    (v, inLines false margin 1 v, inLines false margin room v) :: itemsOfSet margin room vs

/-- Items in lines. -/
def itemsInLines (margin room : Nat) : List Value → String
  | [] => ""
  | [v] => inLines false margin room v
  | v :: vs => inLines false margin 1 v ++ "," ++ newlineAt margin ++ itemsInLines margin room vs

/-- Members in lines. -/
def membersInLines (margin room : Nat) : Members → String
  | [] => ""
  | [(k, v)] => k.shown ++ ": " ++ inLines false (margin + k.shown.length + 2) room v
  | (k, v) :: rest =>
    k.shown ++ ": " ++ inLines false (margin + k.shown.length + 2) 1 v ++ "," ++ newlineAt margin
      ++ membersInLines margin room rest

end

/-- A value as it is shown, in lines. -/
def shownInLines (v : Value) : Except Fault Value :=
  if v.isOverlong then .error .overlong else .ok (.text (inLines true 0 0 (arranged v)))

/-- The filters that write out values. -/
def layoutFilters : Filters :=
  [ ("tojson", ofRule "do_tojson" ["eval_ctx"] [needed "value", usually "indent" .null] fun
      | _, [v, indent] => asJson v indent
      | _, _ => .error .unsupported),
    ("pprint", ofValue "do_pprint" [] "value" shownInLines) ]

end Filter

end TagCloud.Template
