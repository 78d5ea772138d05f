/-!
# The front of a text

Keywords, delimiters and fixed texts are all recognised the same way: a text begins with them or it
does not, and if it does, reading goes on behind them.
-/

namespace TagCloud.Text

/-- What follows `word` at the front of a text. -/
def behind? : (word : List Char) → List Char → Option (List Char)
  | [], cs => some cs
  | _ :: _, [] => none
  | w :: word, c :: cs => if w = c then behind? word cs else none

/-- A word is at the front of exactly those texts that begin with it. -/
theorem behind?_eq_some_iff {word cs rest : List Char} :
    behind? word cs = some rest ↔ cs = word ++ rest := by
  induction word generalizing cs with
  | nil => simp [behind?]
  | cons w word ih =>
    cases cs with
    | nil => simp [behind?]
    | cons c cs =>
      by_cases h : w = c
      · simp [behind?, h, ih]
      · simp [behind?, h, Ne.symm h]

/-- Behind a word there is that much less to read. -/
theorem length_of_behind? {word cs rest : List Char} (h : behind? word cs = some rest) :
    rest.length + word.length = cs.length := by
  rw [behind?_eq_some_iff.1 h, List.length_append, Nat.add_comm]

end TagCloud.Text
