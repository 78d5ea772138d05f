import TagCloud.Template.Encoding.Reading
import TagCloud.Template.Method.Search

/-!
# Methods between texts and bytes

A text becomes bytes, and bytes become a text, in an encoding and with a way to handle what does not
fit. Both are asked for by their names.
-/

namespace TagCloud.Template

namespace Coding

/-- The name that an argument is, or the usual one. -/
def nameArgument (method what usual : String) : Option Value → Except Fault String
  | none => .ok usual
  | some v =>
    match v.text? with
    | some s => if s.contains '\x00' then .error (.method .nullCharacter) else .ok s
    | none =>
      let what := method ++ "() argument '" ++ what ++ "' must be str"
      .error (.method (.wanted what v.argumentKind))

/-- The name of an encoding and the name of a way to handle what does not fit, which two arguments
ask for. -/
def chosen (method : String) : List (Option Value) → Except Fault (String × String)
  | [encoding, errors] => do
    let name ← nameArgument method "encoding" "utf-8" encoding
    let handler ← nameArgument method "errors" "strict" errors
    return (name, handler)
  | _ => .error .unsupported

/-- What there are names for but no texts are encoded in. -/
def textless : List String :=
  [ "base64", "base64_codec", "base_64", "bz2", "bz2_codec", "hex", "hex_codec", "quopri",
    "quopri_codec", "quoted_printable", "quotedprintable", "rot13", "rot_13", "uu", "uu_codec",
    "zip", "zlib", "zlib_codec" ]

/-- The encoding of a name; `doing` is what it is asked for. -/
def encoding (doing name : String) : Except Fault Encoding :=
  match Encoding.ofName? name with
  | some e => .ok e
  | none =>
    if textless.contains (Encoding.plainName name) then .error (.method (.textless doing name))
    else .error (.method (.encoding name))

/-- What goes wrong in an encoding that is not asked for often comes with the name of the
encoding. -/
def located {α : Type} (doing name : String) (outcome : Except Fault α) : Except Fault α :=
  match outcome, Encoding.near? name with
  | .error (.method (.handler handler)), none =>
    .error (.method (.handlerOf doing name handler))
  | .error (.method .unrecoverable), none => .error (.method (.unrecoverableOf name))
  | .error (.method (.coding reason)), none => .error (.method (.codingOf doing name reason))
  | outcome, _ => outcome

/-- The bytes of a text in the encoding of a name. -/
def encoded (names : String × String) (s : String) : Except Fault (List UInt8) := do
  let e ← encoding "encode" names.1
  located "encoding" names.1 (e.encode names.2 s)

/-- The text of bytes in the encoding of a name, which does not matter if there are none. -/
def decoded (names : String × String) (bs : List UInt8) : Except Fault (List Char) := do
  if bs.isEmpty then return []
  let e ← encoding "decode" names.1
  located "decoding" names.1 (e.decode names.2 bs)

/-- The method that makes bytes of a text. -/
def methods : Methods String Value :=
  [ ("encode", ⟨.named 0 2 ["encoding", "errors"], fun s vs => do
      return .bytes (← encoded (← chosen "encode" vs) s)⟩) ]

end Coding

end TagCloud.Template
