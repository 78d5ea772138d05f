/-!
# Tallies and labels

A tag enters a cloud as a tally, its name with a count, and leaves the weighing as a label, its name
with a weight.
-/

namespace TagCloud

/-- A tag with the number of its occurrences. -/
structure Tally where
  name : String
  count : Int
  deriving Repr, DecidableEq

/-- A tag with its prominence, from 0 to 1. -/
structure Label (W : Type) where
  name : String
  weight : W
  deriving Repr, DecidableEq

end TagCloud
