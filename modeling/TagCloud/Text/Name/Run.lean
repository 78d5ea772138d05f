/-!
# Runs of names

Characters side by side often have names that begin alike. A run holds such names: what they all
begin with, and what each of them goes on with.
-/

namespace TagCloud.Text

/-- The names of characters from `first` on: each begins with `front`, and the `lines` hold the rest
of one after the other, with semicolons between those on one line. -/
structure NameRun where
  first : Nat
  front : String
  lines : List String

/-- The rest of each name of a run. -/
def NameRun.ends (run : NameRun) : List String :=
  run.lines.flatMap (·.splitOn ";")

end TagCloud.Text
