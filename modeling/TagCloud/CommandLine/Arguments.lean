import TagCloud.Number.Integer
import TagCloud.Text.Blank
import TagCloud.Text.Digit

/-!
# Reading the command line

The arguments are gone through from the left. An option takes the value that is joined to it or the
one that follows. The first row of values gives the paths: the first value is the tag file, the
second, if there is one in the same row, the output; whatever other values there are is too much.

Options without a value can be run together behind one hyphen, and the last of such a run may be one
with a value. What else is joined to an option without a value is refused before any option of the
run takes effect. What is too much is reported only at the end, and only if there was a tag file.

Two hyphens that are joined to an option are taken for the separator and dropped from its values.
The option is then given, but with an empty list of values.
-/

namespace TagCloud.CommandLine

/-!
## Options on the command line

An argument is an option, a value, or the two hyphens behind which everything is a value. What it is
depends on nothing but itself: an option may be written in full or, if it has a long name, by any
beginning of that name that belongs to no other; its value may be joined to it, with an equals sign
or, behind a short name, directly. Something that begins with a hyphen is still a value if it looks
like a negative number or holds a blank.
-/

/-- An option. -/
inductive Flag where
  | help
  | directive
  | tagDir
  | seed
  | page
  | title
  | heading
  | verbose
  deriving Repr, DecidableEq

/-- The names of the options, in the order in which they are listed. -/
def flagNames : List (String × Flag) :=
  [ ("-h", .help), ("--help", .help), ("-d", .directive), ("--directive", .directive),
    ("--tag-dir", .tagDir), ("--seed", .seed), ("--page", .page), ("--title", .title),
    ("--heading", .heading), ("-v", .verbose), ("--verbose", .verbose) ]

namespace Flag

/-- An option that is followed by a value. -/
def takesValue : Flag → Bool
  | .help | .page | .verbose => false
  | _ => true

/-- All names of an option, as messages show them. -/
def shown (f : Flag) : String :=
  String.intercalate "/" ((flagNames.filter fun (_, g) => g = f).map (·.1))

/-- The option with a given name. -/
def ofName? (name : String) : Option Flag :=
  (flagNames.find? fun (n, _) => n = name).map (·.2)

end Flag

/-- What an argument is. An option has the text that is joined to it, if any is. -/
inductive Role where
  | value
  | separator
  | unknown
  | flag (f : Flag) (short : Bool) (joined : Option (List Char))
  deriving Repr, DecidableEq

/-- Why arguments are not understood. -/
inductive UsageError where
  | ambiguous (argument : String) (names : List String)
  | valueMissing (f : Flag)
  | valueIgnored (f : Flag) (value : String)
  | notANumber (f : Flag) (value : String)
  | noTagFile
  | unrecognized (arguments : List String)
  deriving Repr, DecidableEq

/-- The text shown for arguments that are not understood. -/
def UsageError.message : UsageError → String
  | .ambiguous argument names =>
    "ambiguous option: " ++ argument ++ " could match " ++ String.intercalate ", " names
  | .valueMissing f => "argument " ++ f.shown ++ ": expected one argument"
  | .valueIgnored f value =>
    "argument " ++ f.shown ++ ": ignored explicit argument " ++ Text.quoted value
  | .notANumber f value => "argument " ++ f.shown ++ ": invalid int value: " ++ Text.quoted value
  | .noTagFile => "the following arguments are required: tags_path"
  | .unrecognized arguments => "unrecognized arguments: " ++ String.intercalate " " arguments

/-- The text before the first equals sign, and what follows the sign if there is one. -/
def atEquals : List Char → List Char × Option (List Char)
  | [] => ([], none)
  | c :: cs =>
    if c = '=' then ([], some cs)
    else
      let (before, value) := atEquals cs
      (c :: before, value)

/-- Digits to the end of a text, where a line end may follow them. -/
def digitsToEnd (cs : List Char) : Bool :=
  let digits := cs.takeWhile Text.isDigit
  !digits.isEmpty && (cs.drop digits.length = [] || cs.drop digits.length = ['\n'])

/-- A text that looks like a negative number, with or without a point. -/
def looksNegative : List Char → Bool
  | '-' :: cs =>
    digitsToEnd cs ||
      match cs.dropWhile Text.isDigit with
      | '.' :: fraction => digitsToEnd fraction
      | _ => false
  | _ => false

/-- The options that a name and what is joined to it may mean: behind two hyphens the name is a
beginning of theirs, behind one it is a short name with a value joined directly. -/
def readings (argument : List Char) : List (String × Role) :=
  match argument with
  | '-' :: '-' :: _ =>
    let (name, value) := atEquals argument
    (flagNames.filter fun (n, _) => name.isPrefixOf n.toList).map fun (n, f) =>
      (n, .flag f false value)
  | '-' :: c :: value =>
    (flagNames.filter fun (n, _) => n.toList = ['-', c]).map fun (n, f) =>
      (n, .flag f true (some value))
  | _ => []

/-- A name that begins with one hyphen only. -/
def isShort (name : List Char) : Bool :=
  match name with
  | '-' :: '-' :: _ => false
  | _ => true

/-- What an argument before the two hyphens is. -/
def role (argument : String) : Except UsageError Role :=
  match argument.toList with
  | '-' :: c :: cs =>
    let whole := '-' :: c :: cs
    match Flag.ofName? argument with
    | some f => .ok (.flag f (isShort whole) none)
    | none =>
      let (name, value) := atEquals whole
      match value, Flag.ofName? (String.ofList name) with
      | some value, some f => .ok (.flag f (isShort name) (some value))
      | _, _ =>
        match readings whole with
        | [(_, found)] => .ok found
        | _ :: _ :: _ => .error (.ambiguous argument ((readings whole).map (·.1)))
        | [] =>
          if looksNegative whole || whole.contains ' ' then .ok .value else .ok .unknown
  | _ => .ok .value

/-- What each of some arguments is. -/
def roles : List String → Except UsageError (List (String × Role))
  | [] => .ok []
  | argument :: rest =>
    if argument = "--" then .ok ((argument, .separator) :: rest.map fun a => (a, .value))
    else do
      let found ← role argument
      return (argument, found) :: (← roles rest)

/-! ## Arguments -/

/-- What an option is given: one value, or an empty list of them. -/
inductive Given (α : Type) where
  | value (a : α)
  | emptyList
  deriving Repr, DecidableEq

/-- What the command line asks for. -/
structure Arguments where
  tagFile : String
  output : Option String
  directive : Given String
  tagDir : Given String
  seed : Option (Given Int)
  page : Bool
  title : Given String
  heading : Option (Given String)
  verbose : Bool
  deriving Repr, DecidableEq

/-- What has been read so far: the paths, once the row of values has come that gives them, the
settings, and what is too much, the last one first. -/
structure Progress where
  paths : Option (String × Option String)
  settings : Arguments
  extras : List String

/-- Nothing has been read. -/
def Progress.start : Progress where
  paths := none
  settings :=
    { tagFile := ""
      output := none
      directive := .value ""
      tagDir := .value "/tags"
      seed := none
      page := false
      title := .value "Tag Cloud"
      heading := none
      verbose := false }
  extras := []

/-- Why the reading of arguments stops: help is asked for, or they are not understood. -/
inductive Interruption where
  | help
  | usage (e : UsageError)
  deriving Repr, DecidableEq

/-- How a run of options ends: with an option without a value, with one to which its value is
joined, or with one whose value follows. -/
inductive RunEnd where
  | complete
  | valueJoined (f : Flag) (value : List Char)
  | valueNext (f : Flag)
  deriving Repr, DecidableEq

/-- Takes a run of options apart that goes on behind the short name of `f`: the options without a
value, and how it ends. -/
def takeApart (f : Flag) (text : List Char) : Except UsageError (List Flag × RunEnd) :=
  if f.takesValue then .ok ([], .valueJoined f text)
  else
    match text with
    | [] => .error (.valueIgnored f "")
    | c :: rest =>
      match Flag.ofName? (String.ofList ['-', c]) with
      | none => .error (.valueIgnored f (String.ofList text))
      | some g =>
        match rest with
        | [] => .ok (if g.takesValue then ([f], .valueNext g) else ([f, g], .complete))
        | c :: more => (takeApart g (c :: more)).map fun (fs, found) => (f :: fs, found)

/-- The options that an argument names, and how their run ends. -/
def runOf (f : Flag) (short : Bool) (joined : Option (List Char)) :
    Except UsageError (List Flag × RunEnd) :=
  match joined with
  | none => .ok (if f.takesValue then ([], .valueNext f) else ([f], .complete))
  | some text =>
    if short then takeApart f text
    else if f.takesValue then .ok ([], .valueJoined f text)
    else .error (.valueIgnored f (String.ofList text))

/-- Notes options that have no value. -/
def Progress.switch (p : Progress) : List Flag → Except Interruption Progress
  | [] => .ok p
  | f :: fs =>
    match f with
    | .help => .error .help
    | .page => { p with settings := { p.settings with page := true } }.switch fs
    | .verbose => { p with settings := { p.settings with verbose := true } }.switch fs
    | _ => p.switch fs

/-- What an option is given by a text that is joined to it. -/
def Given.ofJoined (text : List Char) : Given String :=
  if text = ['-', '-'] then .emptyList else .value (String.ofList text)

/-- What is given where a number is wanted. -/
def Given.number : Given String → Except Interruption (Given Int)
  | .emptyList => .ok .emptyList
  | .value text =>
    match Number.readInteger text with
    | .ok n => .ok (.value n)
    | .error _ => .error (.usage (.notANumber .seed text))

/-- Notes what an option is given. -/
def Progress.store (p : Progress) (f : Flag) (given : Given String) :
    Except Interruption Progress :=
  match f with
  | .directive => .ok { p with settings := { p.settings with directive := given } }
  | .tagDir => .ok { p with settings := { p.settings with tagDir := given } }
  | .title => .ok { p with settings := { p.settings with title := given } }
  | .heading => .ok { p with settings := { p.settings with heading := some given } }
  | .seed => given.number.map fun n => { p with settings := { p.settings with seed := some n } }
  | _ => .ok p

/-- Notes an argument that is too much. -/
def Progress.surplus (p : Progress) (argument : String) : Progress :=
  { p with extras := argument :: p.extras }

/-- An output that is named. Two hyphens name none. -/
def namedOutput (argument : String) : Option String :=
  if argument = "--" then none else some argument

/-- Goes through arguments whose roles are known. -/
def goThrough : List (String × Role) → Progress → Except Interruption Progress
  | [], p => .ok p
  | (_, .separator) :: (file, .value) :: rest, ⟨none, settings, extras⟩ =>
    match rest with
    | (output, .value) :: rest =>
      goThrough rest ⟨some (file, namedOutput output), settings, extras⟩
    | rest => goThrough rest ⟨some (file, none), settings, extras⟩
  | (file, .value) :: rest, ⟨none, settings, extras⟩ =>
    match rest with
    | (output, .value) :: (_, .separator) :: rest =>
      goThrough rest ⟨some (file, namedOutput output), settings, extras⟩
    | (output, .value) :: rest =>
      goThrough rest ⟨some (file, namedOutput output), settings, extras⟩
    | (_, .separator) :: (output, .value) :: rest =>
      goThrough rest ⟨some (file, namedOutput output), settings, extras⟩
    | (_, .separator) :: rest => goThrough rest ⟨some (file, none), settings, extras⟩
    | rest => goThrough rest ⟨some (file, none), settings, extras⟩
  | (_, .flag f short joined) :: rest, p =>
    match runOf f short joined with
    | .error e => .error (.usage e)
    | .ok (fs, .complete) => do goThrough rest (← p.switch fs)
    | .ok (fs, .valueJoined f text) => do
      goThrough rest (← (← p.switch fs).store f (.ofJoined text))
    | .ok (fs, .valueNext f) =>
      match rest with
      | (text, .value) :: rest => do goThrough rest (← (← p.switch fs).store f (.value text))
      | _ => .error (.usage (.valueMissing f))
  | (argument, _) :: rest, p => goThrough rest (p.surplus argument)

/-- What some arguments ask for. -/
def Arguments.parse (arguments : List String) : Except Interruption Arguments := do
  let found ← (roles arguments).mapError .usage
  let p ← goThrough found .start
  match p.paths with
  | none => .error (.usage .noTagFile)
  | some (tagFile, output) =>
    if p.extras.isEmpty then return { p.settings with tagFile, output }
    else .error (.usage (.unrecognized p.extras.reverse))

end TagCloud.CommandLine
