import TagCloud.Template.Attribute
import TagCloud.Template.Method.Text
import TagCloud.Text.Entity

/-!
# The methods of markup

Most methods of markup do what those of texts do and make markup of the outcome. Texts that they put
into it are escaped first. They take their arguments as functions do, and words about what does not
fit name the class. The methods that are not listed here are those of texts.
-/

namespace TagCloud.Template

namespace Value

open Signature (needed usually placed)

/-- A text as markup, and so the texts in a list or a tuple. -/
def marked : Value → Value
  | text s _ => markup s
  | list h vs => list h (vs.map fun v => match v with | text s _ => markup s | v => v)
  | tuple vs => tuple (vs.map fun v => match v with | text s _ => markup s | v => v)
  | v => v

/-- An argument as markup. -/
def guarded (v : Value) : Except Fault Value := do
  return markup (← v.escaped)

/-- The items of an argument as markup, or the argument itself if it has none. -/
def guardedItems (v : Value) : Except Fault Value := do
  return list none (← (← v.items).mapM guarded)

/-- What the parameters of the methods of markup are, and which argument is escaped. -/
def markupTable : List (String × List Parameter × Option Nat) :=
  let chars := placed (usually "chars" .null)
  let part := placed (needed "sep")
  let aligned := [placed (needed "width"), placed (usually "fillchar" (.text " "))]
  let split := [usually "sep" .null, usually "maxsplit" (.whole (-1))]
  [ ("split", split, none), ("rsplit", split, none),
    ("splitlines", [usually "keepends" (.bool false)], none),
    ("capitalize", [], none), ("title", [], none), ("lower", [], none), ("upper", [], none),
    ("swapcase", [], none), ("casefold", [], none),
    ("replace",
      [placed (needed "old"), placed (needed "new"), placed (usually "count" (.whole (-1)))],
      some 1),
    ("ljust", aligned, some 1), ("rjust", aligned, some 1), ("center", aligned, some 1),
    ("strip", [chars], none), ("lstrip", [chars], none), ("rstrip", [chars], none),
    ("translate", [placed (needed "table")], none),
    ("expandtabs", [usually "tabsize" (.whole 8)], none),
    ("zfill", [placed (needed "width")], none),
    ("removeprefix", [placed (needed "prefix")], none), ("removesuffix", [needed "suffix"], none),
    ("partition", [part], none), ("rpartition", [part], none) ]

/-- The methods of markup that are not those of texts with markup for an outcome. -/
def markupOwnTable : List (String × List Parameter × (String → List Value → Except Fault Value)) :=
  let plain (f : List Char → List Char) (s : String) (_ : List Value) : Except Fault Value :=
    .ok (.ofChars (f s.toList))
  [ ("join", [placed (needed "iterable")], fun s vs => do
      let row ← guardedItems (vs.headD null)
      return (← callText s "join" ⟨[row], []⟩).marked),
    ("unescape", [], plain Text.unescaped), ("striptags", [], plain Text.withoutTags),
    ("escape", [placed (needed "s")], fun _ vs => guarded (vs.headD null)),
    ("format_map", [placed (needed "mapping")], fun s vs =>
      fieldsMapped true s (vs.headD null)) ]

/-- The signature of a method of markup. -/
def markupSignature (name : String) (parameters : List Parameter) : Signature :=
  ⟨"Markup." ++ name, [if name = "escape" then "cls" else "self"], parameters⟩

/-- Escapes the argument in a place. -/
def guardedAt (place : Option Nat) (vs : List Value) : Except Fault (List Value) :=
  (vs.zipIdx).mapM fun (v, i) => if place = some i then v.guarded else .ok v

/-- Calls a method of markup. -/
def callMarkup (s name : String) (c : Call) : Except Fault Value := do
  match markupTable.lookup name, markupOwnTable.lookup name with
  | some (parameters, place), _ =>
    let vs ← ((markupSignature name parameters).bind c).mapError .call
    return (← callText s name ⟨← guardedAt place vs, []⟩).marked
  | none, some (parameters, rule) =>
    rule s (← ((markupSignature name parameters).bind c).mapError .call)
  | none, none =>
    if name = "format" then
      if (Dictionary.get? "self" c.named).isSome then
        throw (.call (.givenTwice "Markup.format" "self"))
      fieldsFilled true s c
    else callTextOf (if name = "maketrans" then .text else .markup) s name c

/-- The parameters of a method that markup has for itself; what `format` takes is not listed. -/
def markupParameters (name : String) : List Parameter :=
  match markupTable.lookup name, markupOwnTable.lookup name with
  | some (parameters, _), _ | none, some (parameters, _) => parameters
  | none, none => []

/-- What a method of the class of markup makes of a receiver that is no markup. -/
def callUnmarked (v : Value) (name : String) : Except Fault Value := do
  match name with
  | "unescape" => return .ofChars (Text.unescaped (← v.written).toList)
  | "striptags" => throw (v.lacking "unescape")
  | "format" | "format_map" => throw (v.lacking "escape")
  | _ => throw (.call .strangeReceiver)

/-- Calls a method that markup has for itself by its class: the receiver is a parameter like the
others. -/
def callMarkupUnbound (name : String) (c : Call) : Except Fault Value := do
  if name = "escape" then return ← callMarkup "" name c
  let parameters := needed "self" :: markupParameters name
  if name = "format" then
    if c.row.isEmpty then throw (.call (.tooFew "Markup.format" ["self"]))
  else
    let _ ← ((Signature.mk ("Markup." ++ name) [] parameters).bind c).mapError .call
  match c.row.head?.or (Dictionary.get? "self" c.named) with
  | some (markup s) =>
    callMarkup s name ⟨c.row.drop 1, c.named.filter fun (n, _) => n != "self"⟩
  | some v => callUnmarked v name
  | none => throw .unsupported

end Value

end TagCloud.Template
