import TagCloud.Cloud
import TagCloud.Template.Attribute
import TagCloud.Template.Token

/-!
# Clouds in templates

A cloud in a template is made from variables: the tags, the base of the links, and the seed, each
under a name that the environment chooses. A variable that is missing or counts as nothing stands
for no tags, for an empty base and for no seed.

A whole number as a seed gives every cloud of the template a generator of its own, so that clouds
asked for in the same way come out the same. Without a seed the clouds share one generator, which
the caller supplies. Anything else in the place of a seed is taken for something that can shuffle,
and is found out when a cloud is to be shuffled.
-/

namespace TagCloud.Template

/-- The names of the variables that clouds are made from. -/
structure Names where
  tags : String
  base : String
  seed : String
  deriving Repr, DecidableEq

/-- The names that are used unless others are chosen. -/
def Names.usual : Names where
  tags := "tags"
  base := "tag_dir"
  seed := "tag_cloud_rng"

/-- The variables of a template. -/
abbrev Context := Dictionary String Value

/-- Why a template gives no text. -/
inductive TemplateError where
  | malformed (e : SyntaxError)
  | fault (e : Fault)
  | seed (e : SeedError)
  | noTags (owner : String)
  | cloud (e : RenderError)
  deriving Repr, DecidableEq

/-- The text shown for a template that gives no text. -/
def TemplateError.message : TemplateError → String
  | .malformed e => e.message
  | .fault e => e.message
  | .seed e => e.message
  | .noTags owner => owner ++ " has no attribute 'items'"
  | .cloud e => e.message

namespace Context

/-- The value under a name: a variable, or else one of the functions that are always there. -/
def find? (context : Context) (name : String) : Option Value :=
  (Dictionary.get? name context).or ((Builtin.ofName? name).map .builtin)

/-- The tags under a name. What is there instead of them may be nothing, but nothing else. -/
def tags (context : Context) (name : String) : Except TemplateError Tags :=
  match context.find? name with
  | none => .ok []
  | some (.dictionary _ members) | some (.reflection _ members) => .ok (Value.toTags members)
  | some (.builtin .dictionary) => .error (.fault (.call (.unbound Kind.dictionary.name "items")))
  | some v => if v.isEmpty then .ok [] else .error (.noTags v.owner)

/-- The base of the links under a name. -/
def base (context : Context) (name : String) : Value :=
  match context.find? name with
  | none => .text ""
  | some v => if v.isEmpty then .text "" else v

/-- What a cloud with the seed under a name is shuffled by; nothing when there is no seed. -/
def source? (context : Context) (name : String) : Except SeedError (Option Source) :=
  match context.find? name with
  | none => .ok none
  | some v =>
    match v with
    | .null | .bool _ | .whole .. => v.toSeed.generator?.map fun g => g.map Source.generator
    | v => .ok (some (.foreign v.owner))

end Context

/-- The markup of one cloud, and what later clouds without a seed are shuffled by. -/
def renderCall (names : Names) (context : Context) (shared : Source) (directive : Value) :
    Except TemplateError (String × Source) := do
  let own ← (context.source? names.seed).mapError .seed
  let directive ← directive.written.mapError .fault
  let base ← (context.base names.base).written.mapError .fault
  match context.tags names.tags with
  | .error e =>
    let _ : Config Float ← (Directive.parse directive).mapError fun e => .cloud (.directive e)
    .error e
  | .ok tags =>
    let (html, later) ← (renderDirective directive tags base (own.getD shared)).mapError .cloud
    return (html, if own.isSome then shared else later)

end TagCloud.Template
