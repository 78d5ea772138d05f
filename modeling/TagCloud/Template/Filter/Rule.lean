import TagCloud.Template.Arithmetic
import TagCloud.Template.Method.Calling

/-!
# What a filter is

A filter has a signature, of which the filtered value is the first parameter that can be seen, and a
rule that makes a value of the values of its parameters. The rule is told whether printed text is
escaped. What most filters do with a text is what its methods do, so that markup stays markup.
-/

namespace TagCloud.Template

/-- A filter: what it takes, and what it makes of the values of its parameters. The flag tells
whether printed text is escaped. -/
structure Filter where
  signature : Signature
  rule : Bool → List Value → Except Fault Value

/-- Filters by their names. -/
abbrev Filters := List (String × Filter)

namespace Filter

open Signature (needed)

/-- A filter whose parameters have been given as many values as there are names. -/
def ofRule (function : String) (supplied : List String) (parameters : List Parameter)
    (rule : Bool → List Value → Except Fault Value) : Filter :=
  ⟨⟨function, supplied, parameters⟩, rule⟩

/-- A filter that takes nothing but a value. -/
def ofValue (function : String) (supplied : List String) (parameter : String)
    (f : Value → Except Fault Value) : Filter :=
  ofRule function supplied [needed parameter] fun
    | _, [v] => f v
    | _, _ => .error .unsupported

end Filter

namespace Value

/-- Calls a method that changes nothing; values that have no such method are refused. -/
def ask (v : Value) (name : String) (row : List Value) : Except Fault Value := do
  match ← v.attributeNamed name with
  | method owner name => return (← owner.callOwned name ⟨row, []⟩).1
  | part => throw (.call (.notCallable part.kind.name))

/-- What a method of texts makes of a value, which is turned into text first. -/
def askText (v : Value) (name : String) (row : List Value) : Except Fault Value := do
  (← v.softened).ask name row

end Value

/-!
## Looking things up in items

Filters that go through the items of a value can look at a part of each item. The part is named by a
path: names and places with points between them. Where case does not count, texts are looked at in
lower case.
-/

/-- A path to a part of a value, with what stands for a part that is not there. -/
structure Lookup where
  steps : List Value
  usual : Option Value
  deriving Repr

namespace Lookup

/-- The path of nothing, which leads to the value itself. -/
def self : Lookup := ⟨[], none⟩

/-- A name in a path; one that consists of digits is a place. A name in markup is markup. -/
def step (marked : Bool) (name : List Char) : Except Fault Value :=
  if name.isEmpty || !name.all Text.isAnyDigit then
    .ok (if marked then .markup (String.ofList name) else .ofChars name)
  else
    match Number.readInteger (String.ofList name) with
    | .ok n => .ok (.whole n)
    | .error e => .error (.truncation (.text e))

/-- The steps that a value spells. -/
def stepsOf (v : Value) : Except Fault (List Value) :=
  match v, v.text? with
  | .null, _ => .ok []
  | _, some s => (Text.pieces ['.'] none s.toList).mapM (step v.isMarkup)
  | v, none => .ok [v]

/-- The path that a value spells. -/
def read (v : Value) (usual : Value) : Except Fault Lookup := do
  return ⟨← stepsOf v, if usual.kind = .null then none else some usual⟩

/-- The part that a path leads to. -/
def follow (l : Lookup) (v : Value) : Except Fault Value :=
  l.steps.foldlM (fun v place => do
    match ← v.inBrackets place, l.usual with
    | .undefined _, some usual => return usual
    | part, _ => return part) v

/-- The paths that a value spells with commas between them. -/
def readAll (v : Value) : Except Fault (List Lookup) :=
  match v.text? with
  | some s =>
    (Text.pieces [','] none s.toList).mapM fun cs =>
      read (if v.isMarkup then .markup (String.ofList cs) else .ofChars cs) .null
  | none => do return [← read v .null]

/-- A value as it is compared, where case may not count. -/
def caseless (sensitive : Bool) (v : Value) : Value :=
  if sensitive then v else v.mapText Text.lower

/-- What an item is compared by. -/
def key (l : Lookup) (sensitive : Bool) (v : Value) : Except Fault Value := do
  return caseless sensitive (← l.follow v)

end Lookup

end TagCloud.Template
