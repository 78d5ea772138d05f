import TagCloud.Config
import TagCloud.Label
import TagCloud.Random.Generator

/-!
# The order of the labels

A limit keeps the heaviest labels, and it does so before the labels are ordered by name or weight;
only in a random order does the cut come last, so that chance decides who stays. All sorting is
stable: labels that compare equal stay in the order in which they came.

Random order draws one permutation of all labels, whatever the limit. What a later draw from the
same generator gives therefore depends on how many labels there were and on nothing else about them.
-/

namespace TagCloud

/-- What random order draws from: a generator, or something else that was put in its place and is
found out only when a draw is made. -/
inductive Source where
  | generator (g : Generator)
  | foreign (owner : String)
  deriving Repr, DecidableEq

/-- Why a cloud cannot be built or written. -/
inductive CloudError where
  | tooLarge
  | size (e : SizeError)
  | notAGenerator (owner : String)
  | drawsExhausted
  deriving Repr, DecidableEq

/-- The text shown when a cloud cannot be built or written. -/
def CloudError.message : CloudError → String
  | .tooLarge => TooLarge.message ⟨⟩
  | .size e => e.message
  | .notAGenerator owner => owner ++ " has no attribute 'permutation'"
  | .drawsExhausted => "no permutation was drawn"

variable {R W : Type} [Weighable W]

/-- The labels by weight, the lightest first. -/
def lightestFirst (labels : List (Label W)) : List (Label W) :=
  labels.mergeSort fun a b => !Weighable.lighter b.weight a.weight

/-- The labels by weight, the heaviest first. -/
def heaviestFirst (labels : List (Label W)) : List (Label W) :=
  labels.mergeSort fun a b => !Weighable.lighter a.weight b.weight

/-- The labels by name, from code point to code point, upwards unless the direction is down. -/
def byName {W : Type} (order : Direction) (labels : List (Label W)) : List (Label W) :=
  if order = .desc then labels.mergeSort fun a b => !decide (a.name < b.name)
  else labels.mergeSort fun a b => !decide (b.name < a.name)

/-- The first labels up to a limit, and all of them when there is none. -/
def upTo {α : Type} (limit : Nat) (labels : List α) : List α :=
  if 0 < limit then labels.take limit else labels

/-- The labels in an order that is not random, cut to the limit. -/
def arrange (c : Config R) (labels : List (Label W)) : List (Label W) :=
  let kept := if 0 < c.limit then (heaviestFirst labels).take c.limit else labels
  match c.sort with
  | .freq =>
    if c.order = .asc then lightestFirst kept
    else if c.limit = 0 then heaviestFirst kept
    else kept
  | _ => byName c.order kept

/-- The labels at the given places. -/
def atPlaces {α : Type} (labels : List α) (places : List Nat) : List α :=
  places.filterMap (labels[·]?)

/-- The labels in the order of the configuration, cut to its limit, and what later draws are made
from. -/
def sortLabels (c : Config R) (source : Source) (labels : List (Label W)) :
    Except CloudError (List (Label W) × Source) :=
  match c.sort with
  | .rand =>
    match source with
    | .foreign owner => .error (.notAGenerator owner)
    | .generator g =>
      match g.permutation? labels.length with
      | none => .error .drawsExhausted
      | some (places, g) => .ok (upTo c.limit (atPlaces labels places), .generator g)
  | _ => .ok (arrange c labels, source)

end TagCloud
