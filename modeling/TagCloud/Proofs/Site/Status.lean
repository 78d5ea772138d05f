import TagCloud.Proofs.Directive.Coherent
import TagCloud.Proofs.Site.Render

/-!
# The status of a cloud

A request for a cloud is answered with one of four statuses. What is wrong with a request is told
by 400, and a file that does not exist by 404; but the site looks for what is wrong only up to the
seed, and there not for everything. What is met behind that, or is not looked for, is a failure of
its own. The steps of an answer are gone through once for each of the two statuses that say more
than that something is wrong: which step can end the answer with it, and what the steps before have
given.
-/

namespace TagCloud.Site

variable {α β ε : Type} {fresh : Generator} {tree : File.Tree} {base l : File.Location}
  {header path : String} {body : List UInt8} {fields : List (String × Json.Value)} {s : Nat}

/-! ## Outcomes and statuses -/

/-- An outcome with something wrong that is answered with a status. -/
def Troubled (s : Nat) (x : Except Trouble α) : Prop :=
  ∃ t, x = .error t ∧ (Answer.trouble t).status = s

@[simp]
theorem troubled_ok {a : α} : ¬ Troubled s (.ok a : Except Trouble α) :=
  failsWith_ok

@[simp]
theorem status_missing (path : String) :
    (Answer.trouble (.refused (.path (.missing path)))).status = 404 :=
  rfl

/-- Of a path that names a tag file only whether the file is there matters. -/
theorem locateTagFile_of_names (h : NamesTagFile base l path) :
    locateTagFile tree base path
      = match tree.hasEntry (absolute l) with
        | .error e => .error (.failed (.file e))
        | .ok true => .ok l
        | .ok false => .error (.refused (.path (.missing path))) := by
  have hwhole : path.toList.contains '\x00' = false := by simpa using h.whole
  rw [locateTagFile, h.leads]
  simp only [hwhole, h.below, h.named]
  rfl

/-- A tag file that cannot be opened, or that is too deep to be read. -/
inductive Blocked (tree : File.Tree) (l : File.Location) : Prop
  | long (h : tree.locate (absolute l) = .error .nameTooLong) : Blocked tree l
  | directory {x : File.Location} (hx : tree.locate (absolute l) = .ok x)
      (hat : tree.at? x = some .directory) : Blocked tree l
  | deep {bytes : List UInt8} {e : Json.TooDeep} (hfile : tree.read (absolute l) = .ok bytes)
      (hdeep : readTagFile levels (absolute l).text bytes = .error (.json (.tooDeep e))) :
      Blocked tree l

/-- A tag file is looked for before it is opened, so that opening it fails only on a directory. -/
theorem blocked_iff :
    Blocked tree l ↔ (∃ e, tree.hasEntry (absolute l) = .error e)
      ∨ tree.hasEntry (absolute l) = .ok true
        ∧ ((∃ e, tree.read (absolute l) = .error e)
          ∨ ∃ bytes e, tree.read (absolute l) = .ok bytes
            ∧ readTagFile levels (absolute l).text bytes = .error (.json (.tooDeep e))) := by
  rw [File.Tree.hasEntry_eq_error]
  constructor
  · rintro (hlong | ⟨hx, hat⟩ | ⟨hfile, hdeep⟩)
    · exact Or.inl hlong
    · have hthere := File.Tree.hasEntry_eq_ok.2 ⟨_, hx, by rw [hat]; rfl⟩
      exact Or.inr ⟨hthere, Or.inl ((File.Tree.read_eq_error_of_hasEntry hthere).2 ⟨_, hx, hat⟩)⟩
    · exact Or.inr ⟨File.Tree.hasEntry_of_read hfile, Or.inr ⟨_, _, hfile, hdeep⟩⟩
  · rintro (hlong | ⟨hthere, herror | ⟨bytes, e, hfile, hdeep⟩⟩)
    · exact .long hlong
    · obtain ⟨x, hx, hat⟩ := (File.Tree.read_eq_error_of_hasEntry hthere).1 herror
      exact .directory hx hat
    · exact .deep hfile hdeep

/-- A request points to the tag file at a location: it brings no tags along and gives a path that
names that file. -/
structure Points (base : File.Location) (fields : List (String × Json.Value))
    (l : File.Location) : Prop where
  tags : member "tags" fields = .null
  given : (member "jsonPath" fields).isEmpty = false
  names : NamesTagFile base l (member "jsonPath" fields).text

/-- The tags of a request have been tallied. -/
def Tallied (tree : File.Tree) (base : File.Location) (fields : List (String × Json.Value))
    (tallies : List Tally) : Prop :=
  ∃ members, requestedTags tree base fields = .ok members
    ∧ (Json.Value.toTags members).tallies = .ok tallies

/-- Everything that a cloud is made from but its directive: tallies, and the generator that comes
from the seed or else is a fresh one. -/
structure Readied (fresh : Generator) (tree : File.Tree) (base : File.Location)
    (fields : List (String × Json.Value)) (tallies : List Tally) (g : Generator) : Prop where
  tallied : Tallied tree base fields tallies
  seeded : ∃ own, (member "seed" fields).toSeed.generator? = .ok own ∧ own.getD fresh = g

/-- What a request that can be read fails at. -/
inductive FailsAt (fresh : Generator) (tree : File.Tree) (base : File.Location)
    (fields : List (String × Json.Value)) : Prop
  | file {l : File.Location} (hpoints : Points base fields l) (hblocked : Blocked tree l) :
      FailsAt fresh tree base fields
  | seed {tallies : List Tally} {negative : Bool} (htallied : Tallied tree base fields tallies)
      (hseed : (member "seed" fields).toSeed = .real (.infinite negative)) :
      FailsAt fresh tree base fields
  | digits {tallies : List Tally} {g : Generator} {e : Number.TooManyDigits}
      (hready : Readied fresh tree base fields tallies g)
      (hdirective : (Directive.parse (directiveText (member "directive" fields))
        : Except _ (Config Float)) = .error e) : FailsAt fresh tree base fields
  | cloud {tallies : List Tally} {g : Generator} {c : Config Float}
      (hready : Readied fresh tree base fields tallies g)
      (hdirective : Directive.parse (directiveText (member "directive" fields)) = .ok c)
      (hunshown : Unshown c g tallies) : FailsAt fresh tree base fields

/-- What a request for a cloud fails at: its body is too deep to be read, or it can be read and
fails later. -/
inductive Fails (fresh : Generator) (site : Site) (header : String) (body : List UInt8) : Prop
  | body {text : List Char} {e : Json.TooDeep} (hjson : isJson header = true)
      (hdecode : Json.decode? body = some text)
      (hdeep : Json.parseWithin levels text = .error (.tooDeep e)) : Fails fresh site header body
  | request {fields : List (String × Json.Value)} (hpayload : payload header body = .ok fields)
      (hfails : FailsAt fresh site.tree site.base fields) : Fails fresh site header body

end TagCloud.Site
