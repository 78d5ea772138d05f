import TagCloud.Number.Real
import TagCloud.Template.Filter.Rule
import TagCloud.Template.Making
import TagCloud.Template.Rounding

/-!
# Filters for numbers

A value is turned into a whole or a real number, and another value stands for what cannot be.
Numbers lose their sign or some of their digits, and a number of bytes is written with a unit.
-/

namespace TagCloud.Template

namespace Filter

open Signature (needed usually)

/-- A value without its fraction, and another one where there is no number. -/
def truncated (v usual base : Value) : Except Fault Value :=
  let ofReal (x : Float) : Value :=
    match (Number.Datum.ofFloat x).truncate with
    | .ok n => .whole n
    | .error _ => usual
  match v with
  | .undefined complaint => .error (.undefined complaint)
  | .real x _ =>
    match (Number.Datum.ofFloat x).truncate with
    | .error .infinite => .error (.truncation .infinite)
    | _ => .ok (ofReal x)
  | v =>
    let base := if v.text?.isSome then base.whole? else some 10
    match v.whole?, v.numeral? with
    | some n, _ => .ok (if v.kind = .whole then v else .whole n)
    | none, some s =>
      match base.bind fun b => Number.readBased? b s with
      | some n => .ok (.whole n)
      | none => .ok (((Number.readReal? s).map ofReal).getD usual)
    | none, none => .ok usual

/-- A value as a real number, and another one where there is no number. -/
def asReal (v usual : Value) : Except Fault Value :=
  match v with
  | .undefined complaint => .error (.undefined complaint)
  | .real .. => .ok v
  | v =>
    match v.asReal with
    | .ok x => .ok (.real x)
    | .error (.noReal _) | .error (.realWanted _) => .ok usual
    | .error e => .error e

/-- A number rounded to its neighbour above or below, at so many decimal places. -/
def roundedAside (up : Bool) (v places : Value) : Except Fault Value := do
  let power ← Value.operate .pow (.whole 10) places
  let scaled ← Value.operate .mul v power
  let n ←
    match scaled with
    | .real x _ =>
      match (Number.Datum.ofFloat (if up then x.ceil else x.floor)).truncate with
      | .ok n => pure n
      | .error e => throw (.truncation e)
    | .undefined complaint => throw (.undefined complaint)
    | w =>
      match w.whole? with
      | some n => pure n
      | none => throw (.pattern (.wantsReal false w.kind.name))
  Value.operate .div (.whole n) power

/-- A number rounded in one of the three ways. -/
def rounded (v places method : Value) : Except Fault Value := do
  if method.keyObstacle?.isSome then let _ ← method.key
  match method.text? with
  | some "common" => Rounding.rounded v (if places.kind = .null then none else some places)
  | some "ceil" => roundedAside true v places
  | some "floor" => roundedAside false v places
  | _ => throw (.filter (.wrong .roundMethod))

/-- The units of numbers of bytes. -/
def byteUnits (binary : Bool) : List String :=
  if binary then ["KiB", "MiB", "GiB", "TiB", "PiB", "EiB", "ZiB", "YiB"]
  else ["kB", "MB", "GB", "TB", "PB", "EB", "ZB", "YB"]

/-- A number of bytes in the first unit that is large enough; the next greater one has `base` to the
power of `power` bytes. -/
def inUnit (x : Float) (base power : Nat) : List String → String
  | [] => ""
  | name :: names =>
    let unit := Nat.pow base power
    if Quantity.less (.real x) (.whole unit) || names.isEmpty then
      Number.fixed 1 (Float.ofNat base * x / Number.ofFraction false unit 1) ++ " " ++ name
    else inUnit x base (power + 1) names

/-- A number of bytes. -/
def byteSize (v binary : Value) : Except Fault Value := do
  let x ← v.asReal
  let base := if binary.isEmpty then 1000 else 1024
  if x == 1 then return .text "1 Byte"
  else if x < Float.ofNat base then
    match (Number.Datum.ofFloat x).truncate with
    | .ok n => return .text (toString n ++ " Bytes")
    | .error e => throw (.truncation e)
  else return .text (inUnit x base 2 (byteUnits !binary.isEmpty))

/-- The filters for numbers. -/
def numberFilters : Filters :=
  [ ("int", ofRule "do_int" [] [needed "value", usually "default" (.whole 0),
      usually "base" (.whole 10)] fun
      | _, [v, usual, base] => truncated v usual base
      | _, _ => .error .unsupported),
    ("float", ofRule "do_float" [] [needed "value", usually "default" (.real 0.0)] fun
      | _, [v, usual] => asReal v usual
      | _, _ => .error .unsupported),
    ("round", ofRule "do_round" [] [needed "value", usually "precision" (.whole 0),
      usually "method" (.text "common")] fun
      | _, [v, places, method] => rounded v places method
      | _, _ => .error .unsupported),
    ("filesizeformat", ofRule "do_filesizeformat" [] [needed "value",
      usually "binary" (.bool false)] fun
      | _, [v, binary] => byteSize v binary
      | _, _ => .error .unsupported) ]

end Filter

end TagCloud.Template
