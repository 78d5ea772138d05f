import TagCloud.Template.Arithmetic
import TagCloud.Template.Method.Taking

/-!
# Numbers without their sign or some of their digits

A number is rounded to a multiple of a power of ten, a half to the even neighbour. A whole number
has nothing behind its point, so it loses digits only in front of it.
-/

namespace TagCloud.Template

namespace Rounding

/-- A value without its sign. -/
def magnitude (v : Value) : Except Fault Value :=
  match v, v.number? with
  | .complex x y, _ => .ok (.real (Float.sqrt (x * x + y * y)))
  | v, some (.whole n) => .ok (if v.kind = .whole && 0 ≤ n then v else .whole n.natAbs)
  | _, some (.real x) => .ok (.real x.abs)
  | v, none => .error (.operator (.size v.kind.name))

/-- A whole number rounded to a multiple of a power of ten. -/
def roundedWhole (n places : Int) : Int :=
  if 0 ≤ places then n
  else if Int.ofNat (n.natAbs.log2 + 1) < -places then 0
  else
    let unit := Nat.pow 10 (-places).toNat
    let m := Int.ofNat (Number.roundHalfEven n.natAbs unit * unit)
    if n < 0 then -m else m

/-- A real number rounded to so many decimal places. -/
def roundedReal (x : Float) (places : Int) : Except Fault Float :=
  if !x.isFinite || x == 0 || 323 < places then .ok x
  else if places < -308 then .ok (Arithmetic.zeroLike x)
  else if 0 ≤ places then
    .ok ((Number.readReal? (Number.fixed places.toNat x)).getD x)
  else
    match Number.Datum.ofFloat x with
    | .finite negative significand exponent =>
      let (num, den) := Number.dyadic significand exponent
      let unit := Nat.pow 10 (-places).toNat
      let y := Number.ofFraction negative (Number.roundHalfEven num (den * unit) * unit) 1
      if y.isInf then .error (.operator .roundedRange) else .ok y
    | _ => .ok x

/-- The whole number that a real one is without its fraction. -/
def truncated (x : Float) : Except Fault Value :=
  match (Number.Datum.ofFloat x).truncate with
  | .ok n => .ok (.whole n)
  | .error e => .error (.truncation e)

/-- A number rounded to so many places, or to a whole number if none are given; a whole number stays
what it is then. -/
def rounded (v : Value) (places : Option Value) : Except Fault Value := do
  match v, v.whole?, places with
  | .real x _, _, none | .real x _, _, some .null => truncated (← roundedReal x 0)
  | .real x _, _, some places => return .real (← roundedReal x (← places.integer))
  | v, some n, places =>
    let same := if v.kind = .whole then v else .whole n
    match places with
    | none => return same
    | some places =>
      let places ← places.integer
      return if 0 ≤ places then same else .whole (roundedWhole n places)
  | v, none, _ => throw (.filter (.noRounding v.kind.name))

end Rounding

end TagCloud.Template
