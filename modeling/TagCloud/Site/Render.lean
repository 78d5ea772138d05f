import TagCloud.Json.Encoding
import TagCloud.Site.HeaderOptions
import TagCloud.Site.Index

/-!
# Rendering on request

A request for a cloud is a JSON object, in any encoding that its bytes show. It brings its tags
along or names a tag file of the project; besides, it may hold a seed, a directive and a base for
the links, each of which counts as not given when it is null. Tags, file and seed are looked at
before the directive, and whatever is wrong with them is told to whoever asked.
-/

namespace TagCloud.Site

/-- The kind of content that a header names, without its parameters. -/
def mediaType (header : String) : String :=
  Text.lower (String.ofList (trimSpace (header.toList.takeWhile (· ≠ ';'))))

/-- Content that is JSON by its kind. -/
def isJson (header : String) : Bool :=
  let kind := (mediaType header).toList
  kind == "application/json".toList
    || ("application/".toList.isPrefixOf kind && "+json".toList.isSuffixOf kind)

/-- The members of the object that a request is. -/
def payload (header : String) (body : List UInt8) :
    Except Trouble (List (String × Json.Value)) :=
  if !isJson header then .error (.refused .noObject)
  else
    match (Json.decode? body).map (Json.parseWithin levels) with
    | some (.ok (.object members)) => .ok members
    | some (.error (.tooDeep e)) => .error (.failed (.depth e))
    | _ => .error (.refused .noObject)

/-- The value of a member, null if there is none. -/
def member (name : String) (members : List (String × Json.Value)) : Json.Value :=
  (Dictionary.get? name members).getD .null

/-- The tags that a request brings along or names. -/
def requestedTags (tree : File.Tree) (base : File.Location) (members : List (String × Json.Value)) :
    Except Trouble (List (String × Json.Value)) :=
  match member "tags" members with
  | .object tags => .ok tags
  | .null =>
    let path := member "jsonPath" members
    if path.isEmpty then .error (.refused .noTags) else loadTagFile tree base path.text
  | _ => .error (.refused .noMapping)

/-- What a request with a seed is refused with. Only an infinite one is a failure. -/
def seedTrouble : SeedError → Trouble
  | .infinite => .failed (.seed .infinite)
  | e => .refused (.seed e)

/-- The text of a directive in a request. -/
def directiveText (v : Json.Value) : String :=
  if v.isEmpty then "" else v.text

/-- The base of links in a request. -/
def baseText : Json.Value → String
  | .null => usualTagDir
  | v => v.text

/-- The cloud that a request asks for. -/
def rendering (fresh : Generator) (tree : File.Tree) (base : File.Location)
    (members : List (String × Json.Value)) : Except Trouble Rendering := do
  let tags ← requestedTags tree base members
  let tallies ← ((Json.Value.toTags tags).tallies).mapError fun e => .refused (.content (.tag e))
  let own ← ((member "seed" members).toSeed.generator?).mapError seedTrouble
  let source := Source.generator (own.getD fresh)
  let directive := directiveText (member "directive" members)
  let c : Config Float ←
    (Directive.parse directive).mapError fun e => .failed (.render (.directive e))
  let (labels, _) ← (buildCloud c source tallies).mapError fun e => .failed (.render (.cloud e))
  let html ← (renderItems c (baseText (member "tagDir" members)) labels).mapError fun e =>
    .failed (.render (.cloud (.size e)))
  return ⟨html, c, labels⟩

/-- The answer to a request for a cloud. -/
def render (fresh : Generator) (tree : File.Tree) (base : File.Location) (header : String)
    (body : List UInt8) : Answer :=
  match payload header body with
  | .error t => .trouble t
  | .ok members =>
    match rendering fresh tree base members with
    | .ok r => .cloud r
    | .error t => .trouble t

end TagCloud.Site
