import TagCloud.Template.Method.Taking
import TagCloud.Template.Sequence
import TagCloud.Text.Occurrence

/-!
# Methods that search a text

A text is searched for another one, from some place and up to some place. The places are counted as
those of a slice, but a search that begins behind the end of the text finds not even the empty text.
-/

namespace TagCloud.Template

/-- The part of a row in which something is searched for. -/
structure Window where
  start : Int
  stop : Int
  deriving Repr, DecidableEq

namespace Window

/-- The window between two places of a row of some size. -/
def between (size : Nat) (start stop : Int) : Window :=
  let size := Int.ofNat size
  ⟨if start < 0 then max 0 (start + size) else start,
    if size < stop then size else if stop < 0 then max 0 (stop + size) else stop⟩

/-- There is room for so many items in a window. -/
def holds (w : Window) (size : Nat) : Bool :=
  w.start + Int.ofNat size ≤ w.stop

/-- The items of a row in a window. -/
def cut {α : Type} (w : Window) (row : List α) : List α :=
  (row.drop w.start.toNat).take (w.stop - w.start).toNat

/-- The place of an occurrence, the first one or the last one. -/
def place? (w : Window) (last : Bool) (part cs : List Char) : Option Nat :=
  if w.holds part.length then
    (if last then Text.lastAt? part (w.cut cs) else Text.firstAt? part (w.cut cs)).map
      (· + w.start.toNat)
  else none

/-- The number of occurrences. -/
def count (w : Window) (part cs : List Char) : Nat :=
  if w.holds part.length then Text.occurrences part (w.cut cs) else 0

/-- A text in a window begins or ends with another one. -/
def borders (w : Window) (atEnd : Bool) (part cs : List Char) : Bool :=
  w.holds part.length
    && if atEnd then part.isSuffixOf (w.cut cs) else part.isPrefixOf (w.cut cs)

end Window

namespace Value

/-- A place in a row, where one that is left out stands for the usual one. -/
def placeArgument (usual : Int) : Option Value → Except Fault Int
  | none | some .null => .ok usual
  | some v =>
    match v.whole? with
    | some n => .ok n
    | none => .error .sliceBounds

/-- The window that two arguments ask for. -/
def window (size : Nat) (start stop : Option Value) : Except Fault Window := do
  let start ← placeArgument 0 start
  return .between size start (← placeArgument (Int.ofNat size) stop)

/-- The characters of an argument that has to be a text; `what` says so. -/
def characters? (what : String) (v : Value) : Except Fault (List Char) :=
  match v.text? with
  | some s => .ok s.toList
  | none => .error (.method (.wanted what v.kind.name))

/-- The characters of the argument in the place that `what` names. -/
def argumentCharacters? (what : String) (v : Value) : Except Fault (List Char) :=
  match v.text? with
  | some s => .ok s.toList
  | none => .error (.method (.wanted (what ++ " must be str") v.argumentKind))

end Value

namespace Search

open Value (characters? window)

/-- A rule of a method that searches a text. -/
def rule (f : List Char → List Char → Window → Except Fault Value) :
    Method String Value :=
  ⟨.counted 1 3, fun
    | s, [some part, start, stop] => do
      let w ← window s.length start stop
      f (← characters? "must be str" part) s.toList w
    | _, _ => .error .unsupported⟩

/-- The place of an occurrence, or a sign that there is none. -/
def found (last : Bool) (part cs : List Char) (w : Window) : Except Fault Value :=
  .ok (.whole (match w.place? last part cs with | some n => Int.ofNat n | none => -1))

/-- The place of an occurrence, which has to be there. -/
def present (complaint : String) (last : Bool) (part cs : List Char) (w : Window) :
    Except Fault Value :=
  match w.place? last part cs with
  | some n => .ok (.whole (Int.ofNat n))
  | none => .error (.method (.notFound complaint))

/-- The texts of an argument that is a text or a tuple of them, found one by one up to the first
that `f` accepts. -/
def anyText (name : String) (f : List Char → Bool) : List Value → Except Fault Bool
  | [] => .ok false
  | v :: vs => do
    let cs ← characters? ("tuple for " ++ name ++ " must only contain str") v
    if f cs then return true else anyText name f vs

/-- Tells whether a text begins or ends with another one, or with one of some. -/
def border (name : String) (atEnd : Bool) : Method String Value :=
  ⟨.counted 1 3, fun
    | s, [some part, start, stop] => do
      let w ← window s.length start stop
      let holds (part : List Char) := w.borders atEnd part s.toList
      match part with
      | .tuple vs => return .bool (← anyText name holds vs)
      | v =>
        return .bool (holds (← characters? (name ++ " first arg must be str or a tuple of str") v))
    | _, _ => .error .unsupported⟩

/-- The methods that search a text. -/
def methods : Methods String Value :=
  [ ("count", rule fun part cs w => .ok (.whole (Int.ofNat (w.count part cs)))),
    ("find", rule (found false)), ("rfind", rule (found true)),
    ("index", rule (present "substring not found" false)),
    ("rindex", rule (present "substring not found" true)),
    ("startswith", border "startswith" false), ("endswith", border "endswith" true) ]

end Search

end TagCloud.Template
