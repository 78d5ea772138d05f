import TagCloud.Number.Binary64
import TagCloud.Number.Integer
import TagCloud.Text.Hex

/-!
# Numbers in a template

A number is taken off the text by its form alone: a real one has a fraction or an exponent, a whole
one may be written in base two, eight or sixteen, and a leading zero stands for itself. Single low
lines may stand between digits. The digits of a whole number may be of any script as long as the
first one is not; those of a real number are taken whatever their script and refused afterwards.
-/

namespace TagCloud.Template

open TagCloud.Text

/-- What is wrong with a number. -/
inductive BadNumber where
  | tooManyDigits (e : Number.TooManyDigits)
  | foreignDigit (c : Char)
  | foreignExponent
  deriving Repr, DecidableEq

/-- The number of a character in base sixteen, with at least four digits. -/
def codePoint (c : Char) : String :=
  let width := max 4 (Nat.toDigits 16 c.toNat).length
  String.ofList ((hexDigits width c.toNat).map Char.toUpper)

/-- The text shown for a number that cannot be read. -/
def BadNumber.message : BadNumber → String
  | .tooManyDigits e => e.message
  | .foreignDigit c =>
    "invalid character '" ++ c.toString ++ "' (U+" ++ codePoint c ++ ") (<unknown>, line 1)"
  | .foreignExponent => "invalid decimal literal (<unknown>, line 1)"

/-- The digits at the front of a text, each of which may have a low line before it. -/
def moreDigits (digit : Char → Bool) : List Char → List Char
  | [] => []
  | c :: cs =>
    if digit c then c :: moreDigits digit cs
    else if c = '_' then
      match cs with
      | [] => []
      | d :: ds => if digit d then c :: d :: moreDigits digit ds else []
    else []

/-- The digits at the front of a text, with single low lines between them. -/
def digitsAt (digit : Char → Bool) : List Char → List Char
  | [] => []
  | c :: cs => if digit c then c :: moreDigits digit cs else []

/-- The fraction at the front of a text with its point. -/
def fractionAt : List Char → List Char
  | '.' :: cs =>
    match digitsAt isDigit cs with
    | [] => []
    | ds => '.' :: ds
  | _ => []

/-- The sign at the front of a text. -/
def signAt : List Char → List Char
  | c :: _ => if c = '+' || c = '-' then [c] else []
  | [] => []

/-- The exponent at the front of a text: its mark and sign, and its digits. -/
def exponentAt : List Char → List Char × List Char
  | c :: cs =>
    let sign := signAt cs
    match digitsAt isDigit (cs.drop sign.length) with
    | [] => ([], [])
    | ds => if c = 'e' || c = 'E' then (c :: sign, ds) else ([], [])
  | [] => ([], [])

/-- A real number as it is written. -/
structure RealNumeral where
  whole : List Char
  fraction : List Char
  mark : List Char
  exponent : List Char
  deriving Repr, DecidableEq

/-- The characters of a real number. -/
def RealNumeral.size (n : RealNumeral) : Nat :=
  n.whole.length + n.fraction.length + n.mark.length + n.exponent.length

/-- The real number at the front of a text. -/
def realAt? (cs : List Char) : Option RealNumeral :=
  match digitsAt isDigit cs with
  | [] => none
  | whole =>
    let rest := cs.drop whole.length
    let fraction := fractionAt rest
    let (mark, exponent) := exponentAt (rest.drop fraction.length)
    if fraction.isEmpty && exponent.isEmpty then none else some ⟨whole, fraction, mark, exponent⟩

/-- A character beyond ASCII. -/
def isForeign (c : Char) : Bool :=
  128 ≤ c.toNat

/-- The value of a real number. -/
def RealNumeral.value (n : RealNumeral) : Except BadNumber Float :=
  match (n.whole ++ n.fraction).find? isForeign, n.exponent with
  | some c, _ => .error (.foreignDigit c)
  | none, exponent =>
    if exponent.head?.any isForeign then .error .foreignExponent
    else
      match exponent.find? isForeign with
      | some c => .error (.foreignDigit c)
      | none =>
        let digits := (n.whole ++ n.fraction).filter isDigit
        let places := (n.fraction.filter isDigit).length
        let shift := number (exponent.filter isDigit)
        let shift := if n.mark.contains '-' then -Int.ofNat shift else Int.ofNat shift
        .ok (Number.ofDecimal false (number digits) (shift - Int.ofNat places))

/-- A digit of base sixteen, of which the decimal ones may be of any script. -/
def isHexOrDigit (c : Char) : Bool :=
  isDigit c || ('a' ≤ c && c ≤ 'f') || ('A' ≤ c && c ≤ 'F')

/-- The value of a digit of base sixteen. -/
def hexValue (c : Char) : Nat :=
  match digit? c with
  | some n => n
  | none => c.toLower.toNat - 87

/-- The base that a letter behind a zero asks for, and its digits. -/
def base? (c : Char) : Option (Nat × (Char → Bool)) :=
  if c = 'b' || c = 'B' then some (2, fun d => d == '0' || d == '1')
  else if c = 'o' || c = 'O' then some (8, fun d => '0' ≤ d && d ≤ '7')
  else if c = 'x' || c = 'X' then some (16, isHexOrDigit)
  else none

/-- The number that digits of a base denote; low lines are passed over. -/
def numberIn (base : Nat) (ds : List Char) : Nat :=
  (ds.filter (· ≠ '_')).foldl (fun n d => n * base + hexValue d) 0

/-- A decimal number as it is written, and how many characters it takes. -/
def decimalOf (ds : List Char) : Except BadNumber Nat × Nat :=
  ((Number.readDigits (ds.filter (· ≠ '_'))).mapError .tooManyDigits, ds.length)

/-- The whole number at the front of a text, and how many characters it takes. -/
def wholeAt? : List Char → Option (Except BadNumber Nat × Nat)
  | [] => none
  | '0' :: cs =>
    let zeros := decimalOf ('0' :: moreDigits (· == '0') cs)
    match cs with
    | [] => some zeros
    | letter :: ds =>
      match base? letter with
      | none => some zeros
      | some (base, digit) =>
        match moreDigits digit ds with
        | [] => some zeros
        | digits => some (.ok (numberIn base digits), digits.length + 2)
  | c :: cs =>
    if '1' ≤ c && c ≤ '9' then some (decimalOf (c :: moreDigits isDigit cs)) else none

/-! ## A number takes characters off the text -/

theorem length_decimalOf (ds : List Char) : (decimalOf ds).2 = ds.length := rfl

theorem length_wholeAt?_pos {cs : List Char} {v : Except BadNumber Nat} {size : Nat}
    (h : wholeAt? cs = some (v, size)) : 0 < size := by
  unfold wholeAt? at h
  repeat' split at h
  all_goals simp only [Option.some.injEq, reduceCtorEq] at h
  all_goals have h := congrArg Prod.snd h
  all_goals simp only [decimalOf, List.length_cons] at h
  all_goals omega

theorem length_realAt?_pos {cs : List Char} {n : RealNumeral} (h : realAt? cs = some n) :
    0 < n.size := by
  unfold realAt? at h
  split at h
  · simp at h
  · next whole hwhole =>
      simp only at h
      split at h
      · simp at h
      · simp only [Option.some.injEq] at h
        have hpos : 0 < (digitsAt isDigit cs).length := List.length_pos_iff.2 hwhole
        simp only [← h, RealNumeral.size]
        omega

end TagCloud.Template
