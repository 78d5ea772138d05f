import TagCloud.Template.Sequence
import TagCloud.Text.Quoted

/-!
# Calls

A function, a filter or a test names its parameters. A call gives some of them by their place and
some by their name, and those that are left get their defaults. The names are settled first: an
unknown one, and one that has been given already, count for more than too many or too few arguments.

Some parameters come first and are supplied by the template itself. They cannot be seen in a call,
but they are counted in messages, and giving one of them by name gives it twice.
-/

namespace TagCloud.Template

/-- The arguments of a call: those without a name, and those with one. -/
structure Call where
  row : List Value
  named : List (String × Value)
  deriving Repr

/-- A call without arguments. -/
def Call.empty : Call := ⟨[], []⟩

/-- A parameter with its default, if it has one. Some parameters can be given by their place
alone. -/
structure Parameter where
  name : String
  usual : Option Value
  byName : Bool
  deriving Repr

/-- What a function takes. -/
structure Signature where
  function : String
  supplied : List String
  parameters : List Parameter
  deriving Repr

namespace Signature

/-- A parameter that has to be given. -/
def needed (name : String) : Parameter := ⟨name, none, true⟩

/-- A parameter with a default. -/
def usually (name : String) (v : Value) : Parameter := ⟨name, some v, true⟩

/-- A parameter as one that can be given by its place alone. -/
def placed (p : Parameter) : Parameter := { p with byName := false }

/-- The parameters with what a row of arguments gives them. -/
def byPlace : List Parameter → List Value → List (Parameter × Option Value)
  | [], _ => []
  | p :: ps, [] => (p, none) :: byPlace ps []
  | p :: ps, v :: vs => (p, some v) :: byPlace ps vs

/-- What is wrong with a name that none of the parameters can be given by. -/
def strange (s : Signature) (names : List String) (name : String) : CallFault :=
  match names.filter fun n => s.parameters.any fun p => p.name == n && !p.byName with
  | [] => .unknownKeyword s.function name
  | placed => .onlyByPlace s.function placed

/-- Gives a parameter a value by its name; `names` are all names that are given. -/
def give (s : Signature) (names : List String) (slots : List (Parameter × Option Value))
    (name : String) (v : Value) : Except CallFault (List (Parameter × Option Value)) :=
  if s.supplied.contains name then .error (.givenTwice s.function name)
  else
    match slots.find? fun slot => slot.1.name == name && slot.1.byName with
    | none => .error (s.strange names name)
    | some (_, some _) => .error (.givenTwice s.function name)
    | some (_, none) =>
      .ok (slots.map fun slot => if slot.1.name == name then (slot.1, some v) else slot)

/-- The parameters that have to be given. -/
def required (s : Signature) : List Parameter :=
  s.parameters.filter fun p => p.usual.isNone

/-- The values of the parameters in a call. -/
def bind (s : Signature) (c : Call) : Except CallFault (List Value) := do
  let slots ← c.named.foldlM (fun slots (name, v) => s.give (c.named.map (·.1)) slots name v)
    (byPlace s.parameters c.row)
  let hidden := s.supplied.length
  if s.parameters.length < c.row.length then
    throw (.tooMany s.function (hidden + s.required.length) (hidden + s.parameters.length)
      (hidden + c.row.length))
  let values := slots.map fun (p, v) => (p.name, v.or p.usual)
  match (values.filter fun (_, v) => v.isNone).map (·.1) with
  | [] => return values.filterMap (·.2)
  | names => throw (.tooFew s.function names)

end Signature

namespace Value

/-- The text of a value; a whole number that is too long has none. -/
def written (v : Value) : Except Fault String :=
  if v.isOverlong then .error .overlong else .ok v.plainText

/-- A value as text or markup. -/
def softened (v : Value) : Except Fault Value :=
  match v with
  | text _ _ | markup _ => .ok v
  | v => v.written.map text

/-- A value as text; a text stays as it is. -/
def asText (v : Value) : Except Fault Value :=
  match v with
  | text .. => .ok v
  | v => v.written.map text

/-- A value as markup: markup stays, everything else is escaped. -/
def escaped (v : Value) : Except Fault String :=
  match v with
  | markup s => .ok s
  | builtin (.kind .markup) => .error (.call (.tooFew "Markup.__html__" ["self"]))
  | v => v.written.map Text.escaped

/-- The text of a value that is taken for markup as it is. -/
def trusted (v : Value) : Except Fault String :=
  if v.claimsMarkup then v.escaped else v.written

/-- A text or markup changed in its characters. -/
def mapText (f : String → String) : Value → Value
  | text s _ => text (f s)
  | markup s => markup (f s)
  | v => v

end Value

end TagCloud.Template
