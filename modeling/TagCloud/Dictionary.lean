/-!
# Dictionaries in insertion order

The fragments of a directive and the members of a tag file are dictionaries whose order shows in
the cloud. A key keeps the place where it was first put; putting it again replaces its value there.
-/

namespace TagCloud

/-- Keys with their values, each key once, in the order in which the keys first came. -/
abbrev Dictionary (κ α : Type) := List (κ × α)

namespace Dictionary

variable {κ α : Type} [DecidableEq κ]

/-- Gives `key` the value `value`, in its old place if it has one and at the end otherwise. -/
def put (key : κ) (value : α) : Dictionary κ α → Dictionary κ α
  | [] => [(key, value)]
  | (k, v) :: rest => if k = key then (key, value) :: rest else (k, v) :: put key value rest

/-- The value of `key`. -/
def get? (key : κ) : Dictionary κ α → Option α
  | [] => none
  | (k, v) :: rest => if k = key then some v else get? key rest

/-- Puts pairs one after the other. -/
def putAll (entries : List (κ × α)) (d : Dictionary κ α) : Dictionary κ α :=
  entries.foldl (fun d entry => d.put entry.1 entry.2) d

/-- The dictionary of a list of pairs. -/
def ofList (entries : List (κ × α)) : Dictionary κ α :=
  putAll entries []

end Dictionary

end TagCloud
