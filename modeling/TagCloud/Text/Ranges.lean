/-!
# Sets of characters

The classes of characters that the directive language, the names of tags and the messages need are
those of the Unicode standard, not of ASCII. A class is a short list of closed intervals of code
points. Membership is a linear search, which keeps the definition plain; every class answers for
ASCII by itself before it looks here.
-/

namespace TagCloud.Text

/-- A set of code points, as closed intervals in increasing order. -/
abbrev Ranges := List (Nat × Nat)

/-- The interval that holds `n`. -/
def Ranges.find? (ranges : Ranges) (n : Nat) : Option (Nat × Nat) :=
  List.find? (fun r => r.1 ≤ n && n ≤ r.2) ranges

/-- Some interval holds `n`. -/
def Ranges.has (ranges : Ranges) (n : Nat) : Bool :=
  ranges.any fun r => r.1 ≤ n && n ≤ r.2

end TagCloud.Text
