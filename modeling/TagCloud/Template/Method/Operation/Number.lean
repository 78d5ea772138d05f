import TagCloud.Template.Arrangement
import TagCloud.Template.Making
import TagCloud.Template.Rounding

/-!
# The methods behind operators on numbers

A number takes what is no more general than itself: a whole number takes whole ones, a real number
takes both, and a complex one takes all. For anything else the method declines, so that the other
operand may be asked.

Whole numbers are also combined bit by bit, as if a negative one had ones without end in front of
it, and raised to powers of which only a remainder is wanted.
-/

namespace TagCloud.Template

namespace Operation

open Value (whole real tuple declined)

/-- The operators by the names of their methods. -/
def operators : List (String × Operator) :=
  [ ("add", .add), ("sub", .sub), ("mul", .mul), ("truediv", .div), ("floordiv", .floorDiv),
    ("mod", .mod), ("pow", .pow) ]

/-- The operator of a method in which the receiver stands on the right. -/
def reflected? (operation : String) : Option Operator :=
  if operation.startsWith "r" then
    List.lookup (String.ofList (operation.toList.drop 1)) operators
  else none

/-- A number takes another value for an operand. -/
def takes (v w : Value) : Bool :=
  match v with
  | .whole .. | .bool _ => w.whole?.isSome
  | .real .. => w.number?.isSome
  | .complex .. => (Arithmetic.complex? w).isSome
  | _ => false

/-! ## Bits -/

/-- The bits of two whole numbers combined one by one. -/
def bitwise (f : Nat → Nat → Nat) (m n : Int) : Int :=
  let limit := Nat.pow 2 (max m.natAbs.log2 n.natAbs.log2 + 2)
  let word (k : Int) : Nat := (k % Int.ofNat limit).toNat
  let made := f (word m) (word n)
  if limit ≤ 2 * made then Int.ofNat made - Int.ofNat limit else Int.ofNat made

/-- Bits combined, where two truth values make a truth value. -/
def combined (f : Nat → Nat → Nat) (v w : Value) (m n : Int) : Value :=
  let made := bitwise f m n
  if v.kind = .truth && w.kind = .truth then .bool (made ≠ 0) else whole made

/-- A whole number with its bits moved to the left. -/
def shiftedLeft (m n : Int) : Except Fault Value :=
  if n < 0 then .error (.operator .shift)
  else if m = 0 then .ok (whole 0)
  else if Int.ofNat Room.greatest < n / 8 then .error (.beyond "too many digits in integer")
  else if Int.ofNat Arithmetic.digitLimit < n then .error .memory
  else .ok (whole (m * Int.ofNat (Nat.pow 2 n.toNat)))

/-- A whole number with its bits moved to the right. -/
def shiftedRight (m n : Int) : Except Fault Value :=
  if n < 0 then .error (.operator .shift)
  else if Int.ofNat m.natAbs.log2 < n then .ok (whole (if m < 0 then -1 else 0))
  else .ok (whole (Int.fdiv m (Int.ofNat (Nat.pow 2 n.toNat))))

/-- What a method makes of the bits of two whole numbers. -/
def bits? (operation : String) (v w : Value) (m n : Int) : Option (Except Fault Value) :=
  match operation with
  | "and" | "rand" => some (.ok (combined Nat.land v w m n))
  | "or" | "ror" => some (.ok (combined Nat.lor v w m n))
  | "xor" | "rxor" => some (.ok (combined Nat.xor v w m n))
  | "lshift" => some (shiftedLeft m n)
  | "rlshift" => some (shiftedLeft n m)
  | "rshift" => some (shiftedRight m n)
  | "rrshift" => some (shiftedRight n m)
  | _ => none

/-! ## Division -/

/-- The quotient downwards and the remainder of two numbers. -/
def quotientAndRest (a b : Quantity Float) : Except Fault Value :=
  match a, b with
  | .whole m, .whole n =>
    if n = 0 then .error (.operator (.zeroDivisor "integer division or modulo by zero"))
    else .ok (tuple [whole (Int.fdiv m n), whole (Int.fmod m n)])
  | a, b => do
    let x ← Arithmetic.real a
    let y ← Arithmetic.real b
    if y == 0 then throw (.operator (.zeroDivisor "float divmod()"))
    let (down, rest) := Arithmetic.floorQuotient x y
    return tuple [real down, real rest]

/-- A number by which another one has to be multiplied to leave a remainder of one. -/
def inverse? (modulus : Nat) : (fuel : Nat) → (a b : Nat) → (x y : Int) → Option Int
  | 0, _, _, _, _ => none
  | fuel + 1, a, b, x, y =>
    if b = 0 then if a = 1 then some (x % Int.ofNat modulus) else none
    else inverse? modulus fuel b (a % b) y (x - Int.ofNat (a / b) * y)

/-- The remainder of a power. -/
def powerRest (base exponent modulus : Int) : Except Fault Value :=
  let size := modulus.natAbs
  let base := base % Int.ofNat size
  let raised (base : Int) : Value :=
    let rest := (Nat.toDigits 2 exponent.natAbs).foldl (fun made bit =>
      let square := made * made % Int.ofNat size
      if bit = '1' then square * base % Int.ofNat size else square) (1 % Int.ofNat size)
    whole (if modulus < 0 && rest ≠ 0 then rest + modulus else rest)
  if modulus = 0 then .error (.operator .zeroModulus)
  else if 0 ≤ exponent then .ok (raised base)
  else
    match inverse? size (2 * size.log2 + 4) base.toNat size 1 0 with
    | some base => .ok (raised base)
    | none => .error (.operator .noInverse)

/-! ## Words -/

/-- A word as a whole number with a sign. -/
def signedWord (n : Nat) : Int :=
  if Nat.pow 2 63 ≤ n then Int.ofNat n - Int.ofNat (Nat.pow 2 64) else Int.ofNat n

/-- The number that a value is known by among keys. -/
def hash (v : Value) : Except Fault Value := do
  match Arrangement.word? (← v.key) with
  | some n => return whole (signedWord n)
  | none => throw .unsupported

/-! ## Methods -/

/-- What a method makes of a real number alone. -/
def ofReal? (operation : String) (x : Float) : Option (Except Fault Value) :=
  match operation with
  | "int" | "trunc" => some (Rounding.truncated x)
  | "floor" => some (Rounding.truncated x.floor)
  | "ceil" => some (Rounding.truncated x.ceil)
  | _ => none

/-- A whole number as a number of its kind. -/
def plainWhole (v : Value) (n : Int) : Value :=
  if v.kind = .whole then v else whole n

/-- What a method makes of a number alone. -/
def alone? (operation : String) (v : Value) : Option (Except Fault Value) :=
  match operation with
  | "bool" => some (.ok (.bool !v.isEmpty))
  | "neg" => some (v.signed true)
  | "pos" => some (v.signed false)
  | "abs" => some (Rounding.magnitude v)
  | "float" => some (if v.kind = .real then .ok v else v.asReal.map real)
  | "complex" => some (.ok v)
  | "getnewargs" =>
    some (.ok (tuple (match v with
      | .complex x y => [real x, real y]
      | v => [(v.whole?.map (plainWhole v)).getD v])))
  | operation =>
    match v, v.whole? with
    | .real x _, _ => ofReal? operation x
    | v, some n =>
      if operation = "invert" then some (.ok (whole (-n - 1)))
      else if ["int", "trunc", "floor", "ceil", "index"].contains operation then
        some (.ok (plainWhole v n))
      else none
    | _, none => none

/-- What a method makes of a number and another value. -/
def withOther (operation : String) (v w : Value) : Except Fault Value :=
  if !takes v w then .ok declined
  else
    match List.lookup operation operators, reflected? operation with
    | some op, _ => v.operate op w
    | none, some op => w.operate op v
    | none, none =>
      match v.whole?.bind fun m => w.whole?.bind (bits? operation v w m), v.number?, w.number? with
      | some made, _, _ => made
      | none, some a, some b =>
        if operation = "rdivmod" then quotientAndRest b a else quotientAndRest a b
      | _, _, _ => .ok declined

/-- What a method makes of a number and its arguments. -/
def ofNumber (operation : String) (v : Value) : List Value → Except Fault Value
  | [] =>
    if operation = "round" then Rounding.rounded v none
    else (alone? operation v).getD (.error .unsupported)
  | [w] =>
    if operation = "round" then Rounding.rounded v (some w) else withOther operation v w
  | [w, modulus] =>
    match v.whole?, w.whole?, modulus.whole?, modulus with
    | _, _, _, .null => withOther operation v w
    | some m, some n, some k, _ =>
      if operation = "pow" then powerRest m n k else powerRest n m k
    | _, _, _, _ => if takes v w then .error (.operator .modulusKind) else .ok declined
  | _ => .error .unsupported

end Operation

end TagCloud.Template
