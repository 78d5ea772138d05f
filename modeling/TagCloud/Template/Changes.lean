import TagCloud.Template.Comparison

/-!
# Changes of values

A method can change a list, a dictionary or a set, taking items from an iterator leaves fewer of
them, and from then on everything that refers to the value sees the change. Such a value has a
handle. What has been changed is kept by the handles, and a value is brought up to date when
something is to be done with it.

A changed value may hold others that have been changed, so bringing it up to date goes on inside it;
a value is not followed into itself.

A value gets its handle when it becomes a part of another one, or an argument: only then can several
things refer to it.
-/

namespace TagCloud.Template

/-- What a value holds that can be changed. -/
inductive Contents where
  | items (vs : List Value)
  | members (ms : List (Value × Value))
  | rest (vs : List Value) (ending : Option Fault)
  | place (n : Nat)
  | used

/-- What the values that have been changed hold now, by their handles, and the next handle. -/
structure Changes where
  contents : List (Nat × Contents)
  next : Nat

namespace Changes

/-- The changes with what the value of a handle holds now. -/
def put (changes : Changes) (handle : Handle) (now : Contents) : Changes :=
  match handle with
  | some h => { changes with contents := (h, now) :: changes.contents.filter (·.1 ≠ h) }
  | none => changes

/-- The changes with what a value holds now. -/
def note (changes : Changes) (v : Value) : Changes :=
  match v with
  | .list h vs | .set h _ vs => changes.put h (.items vs)
  | .dictionary h ms => changes.put h (.members ms)
  | .iterator h _ vs ending => changes.put h (.rest vs ending)
  | .cycler h _ n => changes.put h (.place n)
  | .joiner h _ true => changes.put h .used
  | _ => changes

/-- What the value of a handle holds now, if it has been changed. -/
def now? (changes : Changes) (handle : Handle) : Option Contents :=
  handle.bind fun h => List.lookup h changes.contents

/-- What the list or the set of a handle holds now. -/
def items? (changes : Changes) (handle : Handle) : Option (List Value) :=
  match changes.now? handle with
  | some (.items vs) => some vs
  | _ => none

/-- What the dictionary of a handle holds now. -/
def members? (changes : Changes) (handle : Handle) : Option (List (Value × Value)) :=
  match changes.now? handle with
  | some (.members ms) => some ms
  | _ => none

mutual

/-- A value up to date; changes are followed only so deep. -/
def latestWithin (changes : Changes) (depth : Nat) (v : Value) : Value :=
  match v with
  | .list h vs =>
    match changes.items? h with
    | none => .list h (latestItems changes depth [] vs)
    | some now =>
      match depth with
      | 0 => .list h now
      | depth + 1 => .list h (latestItems changes depth [] now)
  | .dictionary h ms =>
    match changes.members? h with
    | none => .dictionary h (latestMembers changes depth [] ms)
    | some now =>
      match depth with
      | 0 => .dictionary h now
      | depth + 1 => .dictionary h (latestMembers changes depth [] now)
  | .view name h ms =>
    match changes.members? h with
    | none => .view name h (latestMembers changes depth [] ms)
    | some now =>
      match depth with
      | 0 => .view name h now
      | depth + 1 => .view name h (latestMembers changes depth [] now)
  | .reflection h ms =>
    match changes.members? h with
    | none => .reflection h (latestMembers changes depth [] ms)
    | some now =>
      match depth with
      | 0 => .reflection h now
      | depth + 1 => .reflection h (latestMembers changes depth [] now)
  | .iterator h name vs ending =>
    match changes.now? h with
    | some (.rest now ending) =>
      match depth with
      | 0 => .iterator h name now ending
      | depth + 1 => .iterator h name (latestItems changes depth [] now) ending
    | _ => .iterator h name (latestItems changes depth [] vs) ending
  | .set h frozen vs => .set h frozen ((changes.items? h).getD vs)
  | .tuple vs => .tuple (latestItems changes depth [] vs)
  | .group k vs => .group k (latestItems changes depth [] vs)
  | .cycler h vs n =>
    let n :=
      match changes.now? h with
      | some (.place n) => n
      | _ => n
    .cycler h (latestItems changes depth [] vs) n
  | .joiner h separator used => .joiner h separator (used || (changes.now? h).isSome)
  | .space h ms => .space h (latestMembers changes depth [] ms)
  | .method receiver name => .method (latestWithin changes depth receiver) name
  | v => v
termination_by (depth, sizeOf v)

/-- Items up to date, behind those that are so already and that stand from right to left. -/
def latestItems (changes : Changes) (depth : Nat) (before vs : List Value) : List Value :=
  match vs with
  | [] => before.reverse
  | v :: vs => latestItems changes depth (latestWithin changes depth v :: before) vs
termination_by (depth, sizeOf vs)

/-- Members up to date, behind those that are so already and that stand from right to left. -/
def latestMembers (changes : Changes) (depth : Nat) (before ms : List (Value × Value)) :
    List (Value × Value) :=
  match ms with
  | [] => before.reverse
  | (k, v) :: rest =>
    latestMembers changes depth ((k, latestWithin changes depth v) :: before) rest
termination_by (depth, sizeOf ms)

end

/-- A value up to date. -/
def latest (changes : Changes) (v : Value) : Value :=
  if changes.contents.isEmpty then v else changes.latestWithin changes.contents.length v

end Changes

/-- What may change values on the way to an outcome. -/
abbrev Action (α : Type) := StateT Changes (Except Fault) α

namespace Action

/-- Notes what values hold now. -/
def note (vs : List Value) : Action Unit :=
  modify fun changes => vs.foldl Changes.note changes

/-- A value up to date. -/
def latest (v : Value) : Action Value := do
  return (← get).latest v

end Action

namespace Value

/-! ## What is left of an iterator -/

/-- A value from which all items have been taken. -/
def emptied : Value → Value
  | iterator h name _ _ => iterator h name [] none
  | v => v

/-- A value from which so many items have been taken, or all if there are not so many. -/
def afterTaking (n : Nat) : Value → Value
  | iterator h name vs ending =>
    if n ≤ vs.length then iterator h name (vs.drop n) ending else iterator h name [] none
  | v => v

/-- A value whose items have been taken up to one that matches another value, or all of them. -/
def afterSearching (w v : Value) : Value :=
  match v with
  | iterator _ _ vs _ => ((vs.findIdx? w.isLike).map fun i => v.afterTaking (i + 1)).getD v.emptied
  | v => v

/-! ## Labels -/

mutual

/-- A value with handles and origins for what has none in it, from a number on, and the next number.
What has a handle has been looked through already. -/
def labelled (next : Nat) : Value → Value × Nat
  | list none vs =>
    let (vs, after) := labelledItems (next + 1) [] vs
    (list (some next) vs, after)
  | dictionary none ms =>
    let (ms, after) := labelledMembers (next + 1) [] ms
    (dictionary (some next) ms, after)
  | set none frozen vs => (set (some next) frozen vs, next + 1)
  | iterator none name vs ending =>
    let (vs, after) := labelledItems (next + 1) [] vs
    (iterator (some next) name vs ending, after)
  | tuple vs =>
    let (vs, after) := labelledItems next [] vs
    (tuple vs, after)
  | group k vs =>
    let (k, next) := labelled next k
    let (vs, after) := labelledItems next [] vs
    (group k vs, after)
  | cycler none vs n => (cycler (some next) vs n, next + 1)
  | joiner none separator used => (joiner (some next) separator used, next + 1)
  | space none ms => (space (some next) ms, next + 1)
  | method receiver name =>
    let (receiver, after) := labelled next receiver
    (method receiver name, after)
  | text s .anew => (text s (.part next), next + 1)
  | whole n .anew => (whole n (.part next), next + 1)
  | real x .anew => (real x (.part next), next + 1)
  | v => (v, next)

/-- Items with labels, behind those that have them already and that stand from right to left. -/
def labelledItems (next : Nat) (before : List Value) : List Value → List Value × Nat
  | [] => (before.reverse, next)
  | v :: vs =>
    let (v, next) := labelled next v
    labelledItems next (v :: before) vs

/-- Members with labels, behind those that have them already and that stand from right to left. -/
def labelledMembers (next : Nat) (before : List (Value × Value)) :
    List (Value × Value) → List (Value × Value) × Nat
  | [] => (before.reverse, next)
  | (k, v) :: rest =>
    let (k, next) := labelled next k
    let (v, next) := labelled next v
    labelledMembers next ((k, v) :: before) rest

end

mutual

/-- A value as it is written down in a template, in which equal texts and numbers are the same. -/
def asConstant : Value → Value
  | list h vs => list h (constantItems [] vs)
  | dictionary h ms => dictionary h (constantMembers [] ms)
  | tuple vs => tuple (constantItems [] vs)
  | text s .anew => text s .constant
  | whole n .anew => whole n .constant
  | real x .anew => real x .constant
  | v => v

/-- Items as they are written down in a template, behind those that stand from right to left. -/
def constantItems (before : List Value) : List Value → List Value
  | [] => before.reverse
  | v :: vs => constantItems (asConstant v :: before) vs

/-- Members as they are written down in a template, behind those that stand from right to left. -/
def constantMembers (before : List (Value × Value)) : List (Value × Value) → List (Value × Value)
  | [] => before.reverse
  | (k, v) :: rest => constantMembers ((asConstant k, asConstant v) :: before) rest

end

end Value

end TagCloud.Template
