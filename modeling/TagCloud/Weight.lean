import TagCloud.Label
import TagCloud.Magnitude

/-!
# Weights

Tags that are rarer than the threshold are left out. The others get weights on a logarithmic scale
from the rarest of them, at 0, to the most frequent, at 1; when their logarithms do not differ there
is no scale and each of them gets a half. A count below one, which only a threshold below one lets
through, is weighed as one.

A count that no magnitude can hold makes the weighing fail, but only if it qualifies.
-/

namespace TagCloud

variable {R : Type} [Magnitude R]

/-- The tallies that reach the threshold, in their order. -/
def qualifying (threshold : Int) (tallies : List Tally) : List Tally :=
  tallies.filter fun t => threshold ≤ t.count

/-- The logarithm of a count. -/
def Tally.log (t : Tally) : Except TooLarge R :=
  (Magnitude.ofInt (max t.count 1)).map Magnitude.log

/-- The least of `x` and the members of a list. -/
def leastOf (x : R) (xs : List R) : R :=
  xs.foldl (fun low y => if Magnitude.less y low then y else low) x

/-- The greatest of `x` and the members of a list. -/
def greatestOf (x : R) (xs : List R) : R :=
  xs.foldl (fun high y => if Magnitude.less high y then y else high) x

/-- The places of some logarithms on the scale from the least to the greatest of them. -/
def spread : List R → List R
  | [] => []
  | x :: xs =>
    let low := leastOf x xs
    let high := greatestOf x xs
    if Magnitude.less low high then (x :: xs).map fun y => (y - low) / (high - low)
    else (x :: xs).map fun _ => Magnitude.half

/-- The labels of the tallies that reach the threshold, in their order. -/
def weigh (threshold : Int) (tallies : List Tally) : Except TooLarge (List (Label R)) := do
  let kept := qualifying threshold tallies
  let logs ← kept.mapM Tally.log
  return (kept.zip (spread logs)).map fun (t, w) => ⟨t.name, w⟩

end TagCloud
