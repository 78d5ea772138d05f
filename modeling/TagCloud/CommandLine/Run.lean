import TagCloud.CommandLine.Arguments
import TagCloud.CommandLine.Notes
import TagCloud.Failure
import TagCloud.Page
import TagCloud.TagFile

/-!
# One run of the command line

A run reads a tag file, makes a cloud and writes it to the standard output or to a file. It goes
step by step, and nothing is written before the cloud is finished: directories on the way to the
output are made next, then the file is written, then its path is printed.

A run ends in one of three ways. It is finished; or it stops with a message of its own, for
arguments that are not understood and for a tag file that is missing or cannot be used; or it
fails, when something is wrong that it has no message for.
-/

namespace TagCloud.CommandLine

/-- How the command is called. -/
def usage : String :=
  "usage: tagcloud [-h] [-d DIRECTIVE] [--tag-dir TAG_DIR] [--seed SEED] [--page]\n"
    ++ "                [--title TITLE] [--heading HEADING] [-v]\n"
    ++ "                tags_path [output_path]\n"

/-- What is shown when help is asked for. -/
def help : String :=
  usage
    ++ "\nRender a tag cloud as an HTML fragment.\n"
    ++ "\npositional arguments:\n"
    ++ "  tags_path             JSON object mapping each tag to its items (or to an\n"
    ++ "                        occurrence count).\n"
    ++ "  output_path           Destination file. Written to stdout when omitted.\n"
    ++ "\noptions:\n"
    ++ "  -h, --help            show this help message and exit\n"
    ++ "  -d DIRECTIVE, --directive DIRECTIVE\n"
    ++ "                        Tag cloud directive, e.g. 'font-size: 16 - 28px,\n"
    ++ "                        threshold: 2, sort: freq'.\n"
    ++ "  --tag-dir TAG_DIR     Base path used for tag links.\n"
    ++ "  --seed SEED           Random seed for 'sort: rand'.\n"
    ++ "  --page                Wrap the fragment in a standalone HTML page.\n"
    ++ "  --title TITLE         HTML document title (with --page).\n"
    ++ "  --heading HEADING     Heading text displayed above the cloud (with --page).\n"
    ++ "  -v, --verbose         Log parsing and rendering details.\n"

/-- Why the reading of a tag file stops a run. -/
inductive TagFault where
  | notFound (path : File.Path)
  | unreadable (path : File.Path) (e : TagFileError)
  | unsupported (path : File.Path) (e : UnsupportedTag)
  deriving Repr, DecidableEq

/-- The message of a run that a tag file stops. -/
def TagFault.message : TagFault → String
  | .notFound path => "Tag file not found: " ++ path.text
  | .unreadable path e => "Invalid tag file " ++ path.text ++ ": " ++ e.message
  | .unsupported path e => "Invalid tag file " ++ path.text ++ ": " ++ e.message

/-- How a run ends. -/
inductive Ending where
  | finished
  | helped
  | misused (e : UsageError)
  | stopped (e : TagFault)
  | failed (e : Failure)
  deriving Repr, DecidableEq

/-- What a run leaves behind: how it ended, what it printed, the notes it made, and the files. -/
structure Outcome where
  ending : Ending
  printed : String
  notes : List String
  tree : File.Tree

/-- The number with which a run exits. -/
def Ending.exitCode : Ending → Nat
  | .finished | .helped => 0
  | .misused _ => 2
  | .stopped _ | .failed _ => 1

/-- What a run tells on the error output. -/
def Outcome.errors (o : Outcome) : String :=
  match o.ending with
  | .misused e => usage ++ "tagcloud: error: " ++ e.message ++ "\n"
  | .stopped e => String.join o.notes ++ e.message ++ "\n"
  | _ => String.join o.notes

/-- How many levels of arrays and objects a run has room for. -/
def levels : Nat := 987

/-- The end of a run whose tag file cannot be read. -/
def Ending.unread (path : File.Path) : TagFileError → Ending
  | .json (.tooDeep e) => .failed (.depth e)
  | e => .stopped (.unreadable path e)

/-- The tallies of a tag file, or how the run ends without them. -/
def readTallies (tree : File.Tree) (path : File.Path) : Except Ending (List Tally) := do
  let there ← (tree.hasEntry path).mapError fun e => .failed (.file e)
  if !there then .error (.stopped (.notFound path))
  let bytes ← (tree.read path).mapError fun e => .failed (.file e)
  let members ← (readTagFile levels path.text bytes).mapError (Ending.unread path)
  (Json.Value.toTags members).tallies.mapError fun e => .stopped (.unsupported path e)

/-- The text that is put where an option is shown. -/
def Given.shown : Given String → String
  | .value s => s
  | .emptyList => "[]"

/-- The directive that is given. An empty list of them asks for nothing. -/
def Arguments.directiveText (a : Arguments) : String :=
  match a.directive with
  | .value s => s
  | .emptyList => ""

/-- What the page around a cloud shows. A heading that is an empty list is none. -/
def Arguments.pageText (a : Arguments) : PageText :=
  match a.heading with
  | some (.value heading) => ⟨a.title.shown, some heading⟩
  | _ => ⟨a.title.shown, none⟩

/-- What a run shows: the markup, in its page if one is asked for. -/
def shownMarkup (a : Arguments) (c : Config Float) (cloud : String) : String :=
  if a.page then renderPage c.style a.pageText cloud else cloud

/-- What a seed asks for, or what is drawn from without one. -/
def seeded (fresh : Generator) : Option (Given Int) → Except SeedError Source
  | none => .ok (.generator fresh)
  | some (.value n) => (Generator.ofInt n).map .generator
  | some .emptyList => .error (.kind .list)

/-- The end of a run whose cloud cannot be rendered. -/
def Ending.unrendered (e : RenderError) : Ending :=
  .failed (.render e)

/-- The markup of some labels. Links cannot be made from an empty list of bases, which is noticed
when the size of the first label has been written. -/
def linked (c : Config Float) (base : Given String) (labels : List (Label Float)) :
    Except Failure String :=
  match base with
  | .value base => (renderItems c base labels).mapError fun e => .render (.cloud (.size e))
  | .emptyList => do
    let html ← (renderItems c "" labels).mapError fun e => .render (.cloud (.size e))
    if labels.isEmpty then return html else .error (.base .list)

/-- The markup that arguments ask for and the notes on how it was made; without it, how the run
ends and the notes until then. -/
def markup (fresh : Generator) (tree : File.Tree) (a : Arguments) :
    Except (Ending × List String) (String × List String) := do
  let tallies ← (readTallies tree (.ofText a.tagFile)).mapError fun e => (e, [])
  let ignored := directiveNotes a.directiveText
  let c : Config Float ←
    (Directive.parse a.directiveText).mapError fun e => (.unrendered (.directive e), ignored)
  let read := ignored ++ [configNote a.directive c]
  let source ← (seeded fresh a.seed).mapError fun e => (.failed (.seed e), read)
  let (labels, _) ← (buildCloud c source tallies).mapError fun e => (.unrendered (.cloud e), read)
  let notes := read ++ weightNotes c tallies ++ [cloudSizeNote c labels.length]
  let cloud ← (linked c a.tagDir labels).mapError fun e => (.failed e, notes)
  return (shownMarkup a c cloud, notes)

/-- Writes a text to a file, making the directories on the way to it. -/
def writeOutput (tree : File.Tree) (path : File.Path) (text : String) :
    Option File.FileError × File.Tree :=
  match tree.ensureDirectories path.parent with
  | (some e, tree) => (some e, tree)
  | (none, tree) =>
    match tree.write path (Text.encodeUtf8 text) with
    | .error e => (some e, tree)
    | .ok tree => (none, tree)

/-- A run with arguments that have been understood. -/
def runWith (fresh : Generator) (tree : File.Tree) (a : Arguments) : Outcome :=
  let told (notes : List String) := if a.verbose then notes else []
  match markup fresh tree a with
  | .error (ending, notes) => ⟨ending, "", told notes, tree⟩
  | .ok (text, notes) =>
    match a.output with
    | none => ⟨.finished, text, told notes, tree⟩
    | some output =>
      let path := File.Path.ofText output
      match writeOutput tree path text with
      | (some e, tree) => ⟨.failed (.file e), "", told notes, tree⟩
      | (none, tree) => ⟨.finished, path.text ++ "\n", told notes, tree⟩

/-- A run. Without a seed it draws from `fresh`. -/
def run (fresh : Generator) (tree : File.Tree) (arguments : List String) : Outcome :=
  match Arguments.parse arguments with
  | .error .help => ⟨.helped, help, [], tree⟩
  | .error (.usage e) => ⟨.misused e, "", [], tree⟩
  | .ok a => runWith fresh tree a

/-- The paths at which a run with some arguments looks. -/
def pathsOf (arguments : List String) : List File.Path :=
  match Arguments.parse arguments with
  | .error _ => []
  | .ok a => File.Path.ofText a.tagFile :: (a.output.map File.Path.ofText).toList

end TagCloud.CommandLine
