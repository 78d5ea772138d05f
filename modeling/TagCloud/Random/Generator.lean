/-!
# The generator behind random order

A seed of any size is mixed down to a pool of four 32-bit words and the pool is spread over the
state of a permuted congruential generator: a 128-bit number that is multiplied and incremented, and
whose halves are combined and rotated into 64 bits of output. Draws are made in halves of 32 bits,
the lower one first; the upper one is held back for the next draw, and it stays held when one
shuffle ends and another begins.

The state is a value. Whoever draws gets the state after the draw along with what was drawn, and
two clouds share a generator exactly when the state that one leaves is handed to the other.
-/

namespace TagCloud

/-- A generator: its state, its increment, and the half that is held back. -/
structure Generator where
  state : BitVec 128
  increment : BitVec 128
  held : Option UInt32
  deriving Repr, DecidableEq

namespace Generator

/-- The 32-bit words of a number, the lowest first; none for zero. -/
def wordsOf (n : Nat) : List UInt32 :=
  if n < 0x100000000 then (if n = 0 then [] else [UInt32.ofNat n])
  else UInt32.ofNat n :: wordsOf (n / 0x100000000)
termination_by n
decreasing_by exact Nat.div_lt_self (by omega) (by decide)

/-- The words that a seed is mixed from. -/
def entropy (seed : Nat) : List UInt32 :=
  if seed = 0 then [0] else wordsOf seed

/-- Mixes a word with a running constant, which moves on. -/
def hash (constant factor : UInt32) (word : UInt32) : UInt32 × UInt32 :=
  let next := constant * factor
  let mixed := (word ^^^ constant) * next
  (mixed ^^^ (mixed >>> 16), next)

/-- Mixes one word into another. -/
def blend (x y : UInt32) : UInt32 :=
  let mixed := 0xca01f9dd * x - 0x4973f715 * y
  mixed ^^^ (mixed >>> 16)

/-- The pool while it is mixed: four words and the running constant. -/
structure Pool where
  words : Vector UInt32 4
  constant : UInt32

/-- Mixes the hash of a word into one place of the pool. -/
def Pool.absorb (p : Pool) (place : Fin 4) (word : UInt32) : Pool :=
  let (hashed, constant) := hash p.constant 0x931e8875 word
  ⟨p.words.set place (blend p.words[place] hashed), constant⟩

/-- Puts the hash of a word in one place of the pool. -/
def Pool.fill (p : Pool) (place : Fin 4) (word : UInt32) : Pool :=
  let (hashed, constant) := hash p.constant 0x931e8875 word
  ⟨p.words.set place hashed, constant⟩

/-- The four places of the pool. -/
def places : List (Fin 4) := [0, 1, 2, 3]

/-- The pool of a seed: the first four words fill it, each place is mixed into every other, and the
words beyond the fourth are mixed into all places. -/
def Pool.ofSeed (seed : Nat) : Pool :=
  let words := entropy seed
  let filled :=
    places.foldl (fun p i => p.fill i (words[i.val]?.getD 0)) ⟨Vector.replicate 4 0, 0x43b0d7e5⟩
  let crossed :=
    places.foldl (fun p source =>
      (places.filter (· != source)).foldl (fun p place => p.absorb place p.words[source]) p) filled
  (words.drop 4).foldl (fun p word => places.foldl (fun p place => p.absorb place word) p) crossed

/-- Hashes the words of a pool one after the other. -/
def spreadWords (constant : UInt32) : List UInt32 → List UInt32
  | [] => []
  | word :: words =>
    let (hashed, next) := hash constant 0x58f38ded word
    hashed :: spreadWords next words

/-- The multiplier of the state. -/
def multiplier : BitVec 128 := 0x2360ed051fc65da44385df649fccf645

/-- The state after one step. -/
def advance (g : Generator) : Generator :=
  { g with state := g.state * multiplier + g.increment }

/-- Four 32-bit words as one number of 128 bits; pairs of words have the lower word first, and the
first pair is the upper half. -/
def joinWords (a b c d : UInt32) : BitVec 128 :=
  b.toBitVec ++ a.toBitVec ++ d.toBitVec ++ c.toBitVec

/-- The generator of a seed. -/
def ofSeed (seed : Nat) : Generator :=
  let pool := (Pool.ofSeed seed).words.toList
  match spreadWords 0x8b51f9dd (pool ++ pool) with
  | [a, b, c, d, e, f, g, h] =>
    let start : Generator := ⟨0, (joinWords e f g h <<< 1) ||| 1, none⟩
    let mixed := start.advance
    { mixed with state := mixed.state + joinWords a b c d }.advance
  | _ => ⟨0, 1, none⟩

/-- Draws 64 bits. -/
def next64 (g : Generator) : UInt64 × Generator :=
  let g := g.advance
  let folded := (g.state >>> 64).setWidth 64 ^^^ g.state.setWidth 64
  (⟨folded.rotateRight (g.state >>> 122).toNat⟩, g)

/-- Draws 32 bits: the half that is held back, or else the lower half of a fresh draw. -/
def next32 (g : Generator) : UInt32 × Generator :=
  match g.held with
  | some half => (half, { g with held := none })
  | none =>
    let (drawn, g) := g.next64
    (drawn.toUInt32, { g with held := some (drawn >>> 32).toUInt32 })

end Generator

end TagCloud

namespace TagCloud.Generator

/-!
## Drawing a permutation

A permutation is drawn by swapping: each place, from the last down to the second, is swapped with a
place drawn from those up to it. A place is drawn by masking 32 bits, or 64 where these are too few,
down to the size of the range and drawing again while the result lies beyond it.

Nothing bounds how often a draw has to be repeated, so it is given a budget: as many tries as there
are states with one increment. By then the states have come round, and a draw that has not succeeded
never does. When the budget is used up no permutation is drawn, which is told apart from every
permutation.
-/

/-- How often one draw is repeated at most: as often as there are states, each with one of the
halves that may be held back or with none. -/
def drawBudget : Nat := Nat.pow 2 128 * 0x100000001

/-- The least number of the form `2 ^ b - 1` that is not below `bound`. -/
def mask (bound : Nat) : Nat :=
  if bound = 0 then 0 else Nat.pow 2 (bound.log2 + 1) - 1

/-- Draws 32 bits, or 64 where a number up to `bound` may take more than 32. -/
def nextWord (bound : Nat) (g : Generator) : Nat × Generator :=
  if bound ≤ 0xffffffff then
    let (word, g) := g.next32
    (word.toNat, g)
  else
    let (word, g) := g.next64
    (word.toNat, g)

/-- Draws a number up to `bound`, with at most `budget` tries. -/
def draw? (bound : Nat) : (budget : Nat) → Generator → Option (Nat × Generator)
  | 0, _ => none
  | budget + 1, g =>
    let (word, g) := g.nextWord bound
    let k := word &&& mask bound
    if k ≤ bound then some (k, g) else draw? bound budget g

/-- Swaps the places `i` down to 1 of an array, each with a drawn place up to it. -/
def shuffle? : (i : Nat) → Array Nat → Generator → Option (Array Nat × Generator)
  | 0, places, g => some (places, g)
  | i + 1, places, g => do
    let (j, g) ← draw? (i + 1) drawBudget g
    shuffle? i (places.swapIfInBounds (i + 1) j) g

/-- Draws a permutation of the numbers below `n`. -/
def permutation? (n : Nat) (g : Generator) : Option (List Nat × Generator) := do
  let (places, g) ← shuffle? (n - 1) (Array.range n) g
  return (places.toList, g)

end TagCloud.Generator
