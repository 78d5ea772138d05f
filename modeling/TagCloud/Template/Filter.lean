import TagCloud.Template.Changes
import TagCloud.Template.Filter.Collection
import TagCloud.Template.Filter.Layout
import TagCloud.Template.Filter.Link
import TagCloud.Template.Filter.Number
import TagCloud.Template.Filter.Text
import TagCloud.Template.Test

/-!
# Filters

A filter makes a value from another one: `x | f(a)` is the value that `f` makes from `x` with the
argument `a`. A value that is not there has no items and no text, and that is how most filters take
it.
-/

namespace TagCloud.Template

/-!
## Filters that apply tests and filters to items

The items of a value are chosen by a test, or by a part of them, or each of them is put through a
filter. They are gone through only when somebody takes them, and so is what can be wrong with the
arguments found only then.
-/

namespace Filter

/-- The name that an argument is, among those that are known. -/
def calledName (what : String) (known : List String) (v : Value) : Except Fault String := do
  let _ ← v.key
  match v, v.text?.filter known.contains with
  | _, some name => return name
  | .undefined complaint, none => throw (.unnamed what v.shown (some complaint))
  | v, none => throw (.unnamed what v.shown none)

/-- What `f` makes of items one by one, behind what has been made already and stands from right to
left, up to the first item that it fails for or the fault behind the items. -/
def made (f : Value → Action (List Value)) (ending : Option Fault) (before : List Value) :
    List Value → Action Value
  | [] => return generator before.reverse ending
  | v :: vs => do
    let changes ← get
    match (f (changes.latest v)).run changes with
    | .error e => return generator before.reverse (some e)
    | .ok (row, changes) =>
      set changes
      made f ending (row.reverse ++ before) vs

/-- Items made from those of a value by `prepare`d steps; an empty value has none. -/
def itemsBy (v : Value) (prepare : Except Fault (Value → Action (List Value))) : Action Value :=
  if v.isEmpty then return generator [] none
  else
    match prepare with
    | .error e => return generator [] (some e)
    | .ok f =>
      let (vs, ending) := flow v
      made f ending [] vs

/-- What decides whether an item is chosen, by the arguments of a call. -/
def decision (looksUp : Bool) (c : Call) : Except Fault (Value → Except Fault Bool) := do
  let (path, row) ←
    if looksUp then
      match c.row with
      | [] => throw (.filter (.wrong .noAttributeName))
      | v :: row => do pure (← Lookup.read v .null, row)
    else pure (Lookup.self, c.row)
  return fun v => do
    let part ← path.follow v
    match row with
    | [] => return !part.isEmpty
    | name :: row => Test.holds (← calledName "test" testNames name) part ⟨row, c.named⟩

/-- The items of a value that are chosen, or those that are not. -/
def chosen (looksUp keeps : Bool) (v : Value) (c : Call) : Action Value :=
  itemsBy v do
    let decide ← decision looksUp c
    return fun v => do return if (← decide v) = keeps then [v] else []

/-- What is made of an item, by the arguments of a call; `apply` puts a value through a filter. -/
def mapping (apply : String → Value → Call → Action Value) (c : Call) :
    Except Fault (Value → Action Value) :=
  match c.row, Dictionary.get? "attribute" c.named with
  | [], some part => do
    let usual := (Dictionary.get? "default" c.named).getD .null
    match c.named.find? fun (name, _) => name ≠ "attribute" && name ≠ "default" with
    | some (name, _) => throw (.filter (.wrong (.strangeKeyword (Text.quoted name))))
    | none =>
      let path ← Lookup.read part usual
      return fun v => path.follow v
  | [], none => .error (.filter (.wrong .nothingToMap))
  | name :: row, _ =>
    .ok fun v => do
      let name ← calledName "filter" filterNames name
      apply name v ⟨row, c.named⟩

/-- The items of a value, each put through a filter. -/
def mapped (apply : String → Value → Call → Action Value) (v : Value) (c : Call) : Action Value :=
  itemsBy v do
    let f ← mapping apply c
    return fun v => do return [← f v]

/-- The filters that take any arguments, each a rule that is told how filters are applied. -/
def choices :
    List (String × ((String → Value → Call → Action Value) → Value → Call → Action Value)) :=
  [ ("map", mapped), ("select", fun _ => chosen false true),
    ("reject", fun _ => chosen false false), ("selectattr", fun _ => chosen true true),
    ("rejectattr", fun _ => chosen true false) ]

end Filter

/-! ## Applying a filter -/

namespace Filter

open Signature (needed usually)

/-- The filter that gives a value in the place of one that is not there. -/
def default : Filter :=
  ofRule "do_default" [] [needed "value", usually "default_value" (.text ""),
    usually "boolean" (.bool false)] fun
    | _, [v, usual, anyEmpty] =>
      .ok (match v with
        | .undefined _ => usual
        | v => if !anyEmpty.isEmpty && v.isEmpty then usual else v)
    | _, _ => .error .unsupported

/-- The attribute of a value. -/
def attributeOf (v name : Value) : Except Fault Value := do
  match v, (← name.key).text? with
  | _, none => throw (.attributeName name.kind.name)
  | v, some s =>
    match v.attribute? s, v with
    | some w, _ => return w
    | none, .undefined complaint => throw (.undefined complaint)
    | none, v => return .absent v (.text s)

/-- The filters with a signature of their own. -/
def table : Filters :=
  [ ("d", default), ("default", default),
    ("attr", ofRule "do_attr" ["environment"] [needed "obj", needed "name"] fun
      | _, [v, name] => attributeOf v name
      | _, _ => .error .unsupported) ]
    ++ textFilters ++ linkFilters ++ numberFilters ++ collectionFilters ++ layoutFilters

/-- The filters that take one value and nothing by name. -/
def plainTable : List (String × String × (Value → Except Fault Value)) :=
  [("abs", "abs", Rounding.magnitude), ("length", "len", size), ("count", "len", size)]

/-- There is a filter of a name. -/
def isKnown (name : String) : Bool :=
  filterNames.contains name

/-- What a filter makes of a value depends on more than its arguments. -/
def dependsOnContext (name : String) : Bool :=
  name = "random" || (choices.lookup name).isSome

/-- The name of the function behind a filter, with where it is defined. -/
def functionName (name : String) : String :=
  let plain (function : String) : String :=
    if function.startsWith "sync_" then String.ofList (function.toList.drop 5) else function
  match plainTable.lookup name, table.lookup name with
  | some (function, _), _ => function
  | none, some f =>
    let function := plain f.signature.function
    (if function.startsWith "do_" then "jinja2.filters." else "markupsafe.") ++ function
  | none, none => "jinja2.filters.do_" ++ name

/-- A call in which no argument of a name takes the place of the value. -/
def expectFree (function : String) (names : List String) (c : Call) : Except Fault Unit :=
  match names.find? fun name => (Dictionary.get? name c.named).isSome with
  | some name => .error (.call (.givenTwice function name))
  | none => .ok ()

/-- Fills the placeholders of a text with the arguments of a call. -/
def formatted (v : Value) (c : Call) : Except Fault Value := do
  expectFree "do_format" ["value"] c
  if !c.row.isEmpty && !c.named.isEmpty then throw (.call .mixed)
  let source : Value :=
    if c.named.isEmpty then .tuple c.row
    else .dictionary none (c.named.map fun (name, w) => (.text name, w))
  Value.operate .mod (← v.softened) source

/-- The filters that take all items of a value. -/
def emptying : List String :=
  [ "list", "join", "sum", "min", "max", "sort", "unique", "groupby", "batch", "slice", "reverse",
    "urlencode", "map", "select", "reject", "selectattr", "rejectattr" ]

/-- What is left of a value and of arguments when a filter has taken items from them. -/
def leftovers (name : String) (v : Value) (c : Call) : List Value :=
  if name = "first" then [v.afterTaking 1]
  else if emptying.contains name then [v.emptied]
  else if name = "urlize" then
    ((c.row.drop 4).head?.or (Dictionary.get? "extra_schemes" c.named)).toList.map Value.emptied
  else []

/-- A value that a filter has made. What gives its items one by one is named for the function that
generates them. -/
def generatedBy (name : String) (made : Value) : Value :=
  let function :=
    match name with
    | "map" | "slice" => "sync_do_" ++ name
    | "select" | "reject" | "selectattr" | "rejectattr" => "select_or_reject"
    | name => "do_" ++ name
  match made with
  | .iterator h "generator" vs ending => .iterator h function vs ending
  | made => made

/-- What the filter of a name makes of a value. A filter that applies others to items takes their
names from its arguments, so there are fewer of those each time. -/
def applyWithin (escapes : Bool) : (fuel : Nat) → String → Value → Call → Action Value
  | 0, _, _, _ => throw .unsupported
  | fuel + 1, name, v, c => do
    let made ←
      match table.lookup name, plainTable.lookup name, choices.lookup name with
      | some f, _, _ => do
        let values ← (f.signature.bind ⟨v :: c.row, c.named⟩).mapError Fault.call
        f.rule escapes values
      | none, some (function, f), _ =>
        if !c.named.isEmpty then throw (.call (.noKeywords function))
        else if !c.row.isEmpty then throw (.call (.exactlyOne function (c.row.length + 1)))
        else f v
      | none, none, some rule => do
        expectFree ("sync_do_" ++ name) ["context", "value"] c
        rule (applyWithin escapes fuel) v c
      | none, none, none => if name = "format" then formatted v c else throw .unsupported
    Action.note (leftovers name v c)
    return generatedBy name made

/-- What the filter of a name makes of a value. -/
def apply (escapes : Bool) (name : String) (v : Value) (c : Call) : Action Value :=
  applyWithin escapes (c.row.length + 2) name v c

end Filter

end TagCloud.Template
