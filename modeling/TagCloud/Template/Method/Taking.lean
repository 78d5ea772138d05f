import TagCloud.Template.Call

/-!
# How methods take their arguments

The methods of values take their arguments in one of a few ways, and each way refuses what does not
fit in words of its own: none at all, exactly one, a row between two lengths, or arguments that can
be given by their name, some of them by their place as well. What fits becomes a row of as many
places as there can be arguments, in which those that are not given are left out.
-/

namespace TagCloud.Template

/-- A way to take arguments. -/
inductive Taking where
  | nothing
  | one
  | row (least most : Nat)
  | counted (least most : Nat)
  | bare (count : Nat)
  | bareRow (least most : Nat)
  | named (needed placed : Nat) (names : List String)
  deriving Repr, DecidableEq

namespace Taking

/-- Values in so many places, the last ones left out. -/
def inPlaces (most : Nat) (vs : List Value) : List (Option Value) :=
  vs.map some ++ List.replicate (most - vs.length) none

/-- The arguments in a row of some length, where `short` words what is wrong with a shorter one and
`long` what is wrong with a longer one. -/
def between (least most : Nat) (short long : Nat → CallFault) (vs : List Value) :
    Except CallFault (List (Option Value)) :=
  if vs.length < least then .error (short vs.length)
  else if most < vs.length then .error (long vs.length)
  else .ok (inPlaces most vs)

/-- The arguments in the places of names, of which the first `needed` have to be given and the first
`placed` can be given by their place. -/
def byNames (name : String) (needed placed : Nat) (names : List String) (c : Call) :
    Except CallFault (List (Option Value)) := do
  let given := c.row.length + c.named.length
  if names.length < given then
    throw (.countedMost name names.length given (c.row.isEmpty && !c.named.isEmpty))
  if placed < c.row.length then
    throw (if placed = 0 then .nothingByPlace name else .placedMost name placed c.row.length)
  match (names.take needed).zipIdx.drop c.row.length |>.find? fun (n, _) =>
      (Dictionary.get? n c.named).isNone with
  | some (n, i) => throw (.missing name n (i + 1))
  | none => pure ()
  for (n, _) in c.named do
    match names.findIdx? (· == n) with
    | some place =>
      if place < c.row.length then throw (.givenByBoth name n (place + 1))
    | none => pure ()
  match c.named.find? fun (n, _) => !names.contains n with
  | some (n, _) => throw (.invalidName name n)
  | none =>
    let places := inPlaces names.length c.row
    return (names.zip places).map fun (n, v) => v.or (Dictionary.get? n c.named)

/-- What a fault calls a method that is given something by name. -/
def keywordless (t : Taking) (full name : String) : String :=
  match t with
  | .counted .. => name
  | .bare _ | .bareRow .. => "wrapper " ++ name
  | _ => full

/-- The arguments of a call of a method, which has an owner unless it stands for itself. -/
def arguments (t : Taking) (owner name : String) (c : Call) :
    Except CallFault (List (Option Value)) := do
  let full := if owner.isEmpty then name else owner ++ "." ++ name
  match t with
  | .named needed placed names => byNames name needed placed names c
  | t =>
    if !c.named.isEmpty then throw (.noKeywords (t.keywordless full name))
    match t with
    | .nothing => if c.row.isEmpty then return [] else throw (.noArguments full c.row.length)
    | .one =>
      match c.row with
      | [v] => return [some v]
      | vs => throw (.exactlyOne full vs.length)
    | .row least most =>
      if least = most then
        between least most (.exactly name least) (.exactly name least) c.row
      else between least most (.atLeast name least) (.atMost name most) c.row
    | .bare count =>
      if c.row.length = count then return c.row.map some
      else throw (.expected count c.row.length)
    | .bareRow least most =>
      if least = most then between least most (.exactly "" least) (.exactly "" least) c.row
      else between least most (.atLeast "" least) (.atMost "" most) c.row
    | .counted least most =>
      between least most (.countedLeast name least) (fun n => .countedMost name most n false) c.row
    | .named .. => return []

end Taking

/-- A method: how it takes its arguments, and what it makes of its receiver and them. -/
structure Method (α β : Type) where
  taking : Taking
  rule : α → List (Option Value) → Except Fault β

/-- Methods by their names. -/
abbrev Methods (α β : Type) := List (String × Method α β)

namespace Methods

variable {α β : Type}

/-- Calls the method of a name. A method that is not there is not known. -/
def call (methods : Methods α β) (owner name : String) (receiver : α) (c : Call) :
    Except Fault β := do
  match methods.lookup name with
  | none => throw .unsupported
  | some m => m.rule receiver (← (m.taking.arguments owner name c).mapError .call)

/-- A method without arguments. -/
def plain (name : String) (f : α → β) : String × Method α β :=
  (name, ⟨.nothing, fun receiver _ => .ok (f receiver)⟩)

/-- A method without arguments that may fail. -/
def bare (name : String) (f : α → Except Fault β) : String × Method α β :=
  (name, ⟨.nothing, fun receiver _ => f receiver⟩)

/-- A method of one argument. -/
def single (name : String) (f : α → Value → Except Fault β) : String × Method α β :=
  (name, ⟨.one, fun
    | receiver, [some v] => f receiver v
    | _, _ => .error .unsupported⟩)

end Methods

namespace Value

/-- What a call makes, and the receiver as it is afterwards, if it may have changed. -/
abbrev Outcome := Value × Option Value

/-- The whole number that an argument is. -/
def integer (v : Value) : Except Fault Int :=
  match v.whole? with
  | some n => .ok n
  | none => .error (.notAnInteger v.kind.name)

/-- The whole number that an argument is, if it has no more than so many binary digits. -/
def within (digits : Nat) (e : Fault) (v : Value) : Except Fault Int := do
  let n ← v.integer
  let limit : Int := Nat.pow 2 (digits - 1)
  if n < -limit || limit ≤ n then throw e
  return n

/-- The number of characters or occurrences that an argument is. -/
def amount (v : Value) : Except Fault Int :=
  v.within 64 .amountRange

/-- What a whole number of 32 binary digits switches on or off. -/
def switch (v : Value) : Except Fault Bool := do
  return (← v.within 32 .switchRange) != 0

/-- A text as a value. -/
def ofChars (cs : List Char) : Value :=
  text (String.ofList cs)

/-- Texts as a list. -/
def ofTexts (texts : List (List Char)) : Value :=
  list none (texts.map ofChars)

end Value

end TagCloud.Template
