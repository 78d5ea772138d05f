import TagCloud.Number.Binary64
import TagCloud.Number.Integer
import TagCloud.Random.Generator
import TagCloud.Tags

/-!
# Seeds

A seed comes from a command line, a request or a template, and may be anything that can be taken for
a whole number: a number, whose fraction is dropped, or a text that spells one. A truth value is
refused although it could be taken for a number. Negative numbers are refused last, when it is clear
that there is a number at all.
-/

namespace TagCloud

/-- What is given as a seed. -/
inductive Seed where
  | none
  | truth (b : Bool)
  | whole (n : Int)
  | real (x : Number.Datum)
  | text (s : String)
  | other (kind : Kind)
  deriving Repr, DecidableEq

/-- Why no generator can be had from a seed. -/
inductive SeedError where
  | truth
  | infinite
  | notANumber
  | text (e : Number.IntegerError)
  | kind (k : Kind)
  | negative
  deriving Repr, DecidableEq

/-- The text shown for a seed that gives no generator. -/
def SeedError.message : SeedError → String
  | .truth => "seed must be an integer"
  | .infinite => "cannot convert float infinity to integer"
  | .notANumber => "cannot convert float NaN to integer"
  | .text e => e.message
  | .kind k =>
    "int() argument must be a string, a bytes-like object or a real number, not '" ++ k.name ++ "'"
  | .negative => "expected non-negative integer"

/-- A number without its fraction. -/
def Number.Datum.truncate : Number.Datum → Except SeedError Int
  | .finite negative significand exponent =>
    let (num, den) := Number.dyadic significand exponent
    .ok (if negative then -Int.ofNat (num / den) else Int.ofNat (num / den))
  | .infinite _ => .error .infinite
  | .nan => .error .notANumber

/-- The generator of a whole number. -/
def Generator.ofInt (n : Int) : Except SeedError Generator :=
  if n < 0 then .error .negative else .ok (Generator.ofSeed n.toNat)

/-- The generator that a seed asks for; none when there is no seed. -/
def Seed.generator? : Seed → Except SeedError (Option Generator)
  | .none => .ok Option.none
  | .truth _ => .error .truth
  | .whole n => (Generator.ofInt n).map some
  | .real x => do
    let n ← x.truncate
    (Generator.ofInt n).map some
  | .text s =>
    match Number.readInteger s with
    | .ok n => (Generator.ofInt n).map some
    | .error e => .error (.text e)
  | .other kind => .error (.kind kind)

end TagCloud
