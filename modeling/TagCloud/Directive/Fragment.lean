import TagCloud.Dictionary
import TagCloud.Text.Blank

/-!
# The fragments of a directive

A directive is cut at its commas into fragments, and a fragment at its first colon into a key and a
value. A separator may hold commas of its own, so it is written in braces: from an opening brace to
the next closing one, or to the end of the directive if none follows, commas do not cut. Opening
braces inside a group mean nothing, and neither does a closing brace outside.

`cutFragment` takes one fragment off the front, a whole group at a time; `fragments` repeats it.
-/

namespace TagCloud.Directive

open TagCloud.Text

/-- What remains of a group after its opening brace, with the closing one, and the rest. -/
def closeGroup (cs : List Char) : List Char × List Char :=
  match cs.dropWhile (· != '}') with
  | [] => (cs, [])
  | close :: rest => (cs.takeWhile (· != '}') ++ [close], rest)

/-- Closing a group leaves a rest no longer than the text. -/
theorem length_closeGroup_le (cs : List Char) : (closeGroup cs).2.length ≤ cs.length := by
  have hle := (List.dropWhile_sublist (l := cs) (· != '}')).length_le
  unfold closeGroup
  split
  · simp
  · simp_all
    omega

/-- The text up to the first comma outside a group, and the rest from that comma on. -/
def cutFragment : List Char → List Char × List Char
  | [] => ([], [])
  | c :: cs =>
    if c = ',' then ([], c :: cs)
    else if c = '{' then
      let group := closeGroup cs
      let cut := cutFragment group.2
      (c :: group.1 ++ cut.1, cut.2)
    else
      let cut := cutFragment cs
      (c :: cut.1, cut.2)
termination_by cs => cs.length
decreasing_by
  · exact Nat.lt_succ_of_le (length_closeGroup_le cs)
  · simp

/-- Cutting leaves a rest no longer than the text. -/
theorem length_cutFragment_le (cs : List Char) : (cutFragment cs).2.length ≤ cs.length := by
  fun_induction cutFragment cs with
  | case1 => simp
  | case2 => simp
  | case3 cs _ group cut ih =>
    have hle := length_closeGroup_le cs
    simp only [List.length_cons]
    exact Nat.le_succ_of_le (Nat.le_trans ih hle)
  | case4 c cs _ _ cut ih =>
    simp only [List.length_cons]
    exact Nat.le_succ_of_le ih

/-- The fragments of a directive, empty ones among them. -/
def fragments (cs : List Char) : List (List Char) :=
  match _ : cutFragment cs with
  | (front, []) => [front]
  | (front, _ :: rest) => front :: fragments rest
termination_by cs.length
decreasing_by
  next h =>
    have hle := length_cutFragment_le cs
    rw [h, List.length_cons] at hle
    exact hle

/-- The text before the first colon and the text after it. -/
def atColon : List Char → Option (List Char × List Char)
  | [] => none
  | c :: cs => if c = ':' then some ([], cs) else (atColon cs).map fun (k, v) => (c :: k, v)

/-- The fragments with the blanks around them dropped, and without those that are then empty. -/
def trimmedFragments (directive : String) : List (List Char) :=
  ((fragments directive.toList).map trim).filter (!·.isEmpty)

/-- The key and the value of a fragment; none when it has no colon. -/
def entry? (fragment : List Char) : Option (String × String) :=
  (atColon fragment).map fun (key, value) => (String.ofList (trim key), String.ofList (trim value))

/-- The keys of a directive with their values, in the order in which the keys first come; a later
value takes the place of an earlier one. -/
def split (directive : String) : Dictionary String String :=
  Dictionary.ofList ((trimmedFragments directive).filterMap entry?)

end TagCloud.Directive
