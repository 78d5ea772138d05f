import TagCloud.Proofs.CommandLine.Run
import TagCloud.Proofs.Directive.Refused

/-!
# How a run ends

A run looks for what is wrong with its tag file, and has a message for it: the file is missing, it
holds no tags, or a tag in it cannot be counted. It looks for nothing else. A file that cannot be
opened, a directive with too many digits, a seed that is none, a cloud that cannot be shown and an
empty list of bases are failures, with which a run breaks off. So a run without an output file shows
its markup or stops with a message exactly when it does not fail, and what it can fail at is told
here in terms of its arguments and of the tree.

The steps of a run are gone through once for each of its ends: which of them can end it so, and what
the steps before have given.
-/

namespace TagCloud.CommandLine

variable {fresh : Generator} {tree : File.Tree} {a : Arguments} {p : File.Path}
  {tallies : List Tally} {c : Config Float} {base : Given String} {labels : List (Label Float)}
  {html : String}

/-! ## The tag file -/

/-- A tag file that cannot be opened, or that is too deep to be read. -/
inductive Blocked (tree : File.Tree) (p : File.Path) : Prop
  | long (h : tree.locate p = .error .nameTooLong) : Blocked tree p
  | directory {x : File.Location} (hx : tree.locate p = .ok x)
      (hat : tree.at? x = some .directory) : Blocked tree p
  | deep {bytes : List UInt8} {e : Json.TooDeep} (hfile : tree.read p = .ok bytes)
      (hdeep : readTagFile levels p.text bytes = .error (.json (.tooDeep e))) : Blocked tree p

/-- What a run has a message for: a tag file that is missing, one that holds no tags, and tags that
cannot be counted. -/
inductive Unfit (tree : File.Tree) (p : File.Path) : TagFault → Prop
  | missing (h : tree.hasEntry p = .ok false) : Unfit tree p (.notFound p)
  | unreadable {bytes : List UInt8} {e : TagFileError} (hfile : tree.read p = .ok bytes)
      (hread : readTagFile levels p.text bytes = .error e)
      (hshallow : ∀ deep, e ≠ .json (.tooDeep deep)) : Unfit tree p (.unreadable p e)
  | unsupported {bytes : List UInt8} {members : List (String × Json.Value)} {e : UnsupportedTag}
      (hfile : tree.read p = .ok bytes) (hread : readTagFile levels p.text bytes = .ok members)
      (htallies : (Json.Value.toTags members).tallies = .error e) :
      Unfit tree p (.unsupported p e)

/-- A tag file holds tags that come to some tallies. -/
def Holds (tree : File.Tree) (p : File.Path) (tallies : List Tally) : Prop :=
  ∃ bytes members, tree.read p = .ok bytes ∧ readTagFile levels p.text bytes = .ok members
    ∧ (Json.Value.toTags members).tallies = .ok tallies

theorem unread_eq_stopped {e : TagFileError} {fault : TagFault} :
    Ending.unread p e = .stopped fault
      ↔ (∀ deep, e ≠ .json (.tooDeep deep)) ∧ fault = .unreadable p e := by
  unfold Ending.unread
  split
  · next deep => simp
  · next hother =>
      rw [Ending.stopped.injEq, eq_comm]
      exact ⟨fun h => ⟨fun deep hdeep => hother deep hdeep, h⟩, fun h => h.2⟩

theorem unread_eq_failed {e : TagFileError} :
    (∃ f, Ending.unread p e = .failed f) ↔ ∃ deep, e = .json (.tooDeep deep) := by
  unfold Ending.unread
  split
  · next deep => exact iff_of_true ⟨_, rfl⟩ ⟨deep, rfl⟩
  · next hother => exact iff_of_false (by simp) fun ⟨deep, h⟩ => hother deep h

/-- The steps by which tallies are read, told apart by whether the file is there. -/
theorem readTallies_eq (tree : File.Tree) (p : File.Path) :
    readTallies tree p
      = match tree.hasEntry p with
        | .error e => .error (.failed (.file e))
        | .ok false => .error (.stopped (.notFound p))
        | .ok true =>
          ((tree.read p).mapError fun e => .failed (.file e)) >>= fun bytes =>
            ((readTagFile levels p.text bytes).mapError (Ending.unread p)) >>= fun members =>
              (Json.Value.toTags members).tallies.mapError fun e =>
                .stopped (.unsupported p e) := by
  unfold readTallies
  cases tree.hasEntry p with
  | error e => rfl
  | ok there =>
      cases there with
      | true => rfl
      | false => rfl

theorem readTallies_eq_ok : readTallies tree p = .ok tallies ↔ Holds tree p tallies := by
  constructor
  · intro h
    rw [readTallies_eq] at h
    split at h
    · exact absurd h (by simp)
    · exact absurd h (by simp)
    · simp only [bind_eq_ok, mapError_eq_ok] at h
      obtain ⟨bytes, hfile, members, hread, htallies⟩ := h
      exact ⟨bytes, members, hfile, hread, htallies⟩
  · rintro ⟨bytes, members, hfile, hread, htallies⟩
    exact readTallies_of_read hfile hread htallies

theorem readTallies_stopped {fault : TagFault} :
    FailsWith (· = .stopped fault) (readTallies tree p) ↔ Unfit tree p fault := by
  rw [readTallies_eq]
  constructor
  · intro h
    split at h
    · simp at h
    · next hthere =>
        rw [failsWith_error, Ending.stopped.injEq] at h
        exact h ▸ .missing hthere
    · simp only [failsWith_bind, failsWith_mapError, mapError_eq_ok, reduceCtorEq, and_false,
        exists_false, false_or, unread_eq_stopped, Ending.stopped.injEq] at h
      rcases h with ⟨bytes, hfile, ⟨e, hread, hshallow, rfl⟩ | ⟨members, hread, e, htallies, rfl⟩⟩
      · exact .unreadable hfile hread hshallow
      · exact .unsupported hfile hread htallies
  · rintro (hthere | ⟨hfile, hread, hshallow⟩ | ⟨hfile, hread, htallies⟩)
    · simp [hthere]
    · simp only [File.Tree.hasEntry_of_read hfile, failsWith_bind, failsWith_mapError,
        mapError_eq_ok, unread_eq_stopped]
      exact Or.inr ⟨_, hfile, Or.inl ⟨_, hread, hshallow, rfl⟩⟩
    · simp only [File.Tree.hasEntry_of_read hfile, failsWith_bind, failsWith_mapError,
        mapError_eq_ok]
      exact Or.inr ⟨_, hfile, Or.inr ⟨_, hread, _, htallies, rfl⟩⟩

/-- A tag file is looked for before it is opened, so that opening it fails only on a path that is
too long and on a directory. -/
theorem blocked_iff :
    Blocked tree p ↔ ((∃ e, tree.hasEntry p = .error e)
        ∨ tree.hasEntry p = .ok true ∧ ∃ e, tree.read p = .error e)
      ∨ ∃ bytes e, tree.read p = .ok bytes
        ∧ readTagFile levels p.text bytes = .error (.json (.tooDeep e)) := by
  rw [File.Tree.unopened_iff]
  constructor
  · rintro (hlong | ⟨hx, hat⟩ | ⟨hfile, hdeep⟩)
    · exact Or.inl (Or.inl hlong)
    · exact Or.inl (Or.inr ⟨_, hx, hat⟩)
    · exact Or.inr ⟨_, _, hfile, hdeep⟩
  · rintro ((hlong | ⟨x, hx, hat⟩) | ⟨bytes, e, hfile, hdeep⟩)
    · exact .long hlong
    · exact .directory hx hat
    · exact .deep hfile hdeep

theorem readTallies_failed :
    FailsWith (fun ending => ∃ f, ending = .failed f) (readTallies tree p) ↔ Blocked tree p := by
  rw [readTallies_eq, blocked_iff]
  cases hentry : tree.hasEntry p with
  | error e => simp
  | ok there =>
      cases there with
      | false =>
          have hunread : ∀ bytes, tree.read p ≠ .ok bytes := fun bytes hfile =>
            absurd (hentry.symm.trans (File.Tree.hasEntry_of_read hfile)) (by simp)
          simp [hunread]
      | true =>
          simp only [failsWith_bind, failsWith_mapError, mapError_eq_ok, unread_eq_failed,
            Ending.failed.injEq, exists_eq', and_true, reduceCtorEq, exists_false, and_false,
            or_false, false_or, true_and]
          refine or_congr_right ⟨?_, ?_⟩
          · rintro ⟨bytes, hfile, e, hread, deep, rfl⟩
            exact ⟨bytes, deep, hfile, hread⟩
          · rintro ⟨bytes, deep, hfile, hread⟩
            exact ⟨bytes, hfile, _, hread, deep, rfl⟩

/-- Without tallies a run stops or fails. -/
theorem readTallies_error {ending : Ending} (h : readTallies tree p = .error ending) :
    (∃ fault, ending = .stopped fault) ∨ ∃ f, ending = .failed f := by
  have hunread : ∀ e, (∃ fault, Ending.unread p e = .stopped fault)
      ∨ ∃ f, Ending.unread p e = .failed f := by
    intro e
    unfold Ending.unread
    split
    · exact Or.inr ⟨_, rfl⟩
    · exact Or.inl ⟨_, rfl⟩
  rw [readTallies_eq] at h
  split at h
  · exact Or.inr ⟨_, (Except.error.inj h).symm⟩
  · exact Or.inl ⟨_, (Except.error.inj h).symm⟩
  · simp only [bind_eq_error, mapError_eq_error] at h
    rcases h with ⟨e, -, rfl⟩ | ⟨bytes, -, ⟨e, -, rfl⟩ | ⟨members, -, e, -, rfl⟩⟩
    · exact Or.inr ⟨_, rfl⟩
    · exact hunread e
    · exact Or.inl ⟨_, rfl⟩

/-! ## The seed and the base of the links -/

/-- A seed that gives no generator. -/
inductive BadSeed : Option (Given Int) → Prop
  | negative {n : Int} (h : n < 0) : BadSeed (some (.value n))
  | list : BadSeed (some .emptyList)

theorem exists_seeded_eq_error {seed : Option (Given Int)} :
    (∃ e, seeded fresh seed = .error e) ↔ BadSeed seed := by
  constructor
  · rintro ⟨e, h⟩
    unfold seeded at h
    split at h
    · exact absurd h (by simp)
    · next n =>
        rw [Generator.ofInt] at h
        split at h
        · next hnegative => exact .negative hnegative
        · exact absurd h (by simp [Except.map])
    · exact .list
  · rintro (hnegative | _)
    · exact ⟨.negative, by rw [seeded, Generator.ofInt, if_pos hnegative]; rfl⟩
    · exact ⟨_, rfl⟩

/-- What is drawn from is a generator. -/
theorem generator_of_seeded {seed : Option (Given Int)} {source : Source}
    (h : seeded fresh seed = .ok source) : ∃ g, source = .generator g := by
  unfold seeded at h
  split at h
  · exact ⟨fresh, (Except.ok.inj h).symm⟩
  · obtain ⟨g, -, rfl⟩ := map_eq_ok.1 h
    exact ⟨g, rfl⟩
  · exact absurd h (by simp)

theorem renderItems_nil (c : Config Float) (path : String) :
    renderItems c path [] = .ok "" :=
  rfl

theorem linked_eq_ok :
    linked c base labels = .ok html
      ↔ ∃ path, (base = .value path ∨ base = .emptyList ∧ labels = [])
          ∧ renderItems c path labels = .ok html := by
  unfold linked
  cases base with
  | value path => simp [mapError_eq_ok]
  | emptyList =>
      cases labels with
      | nil => simp [mapError_eq_ok, renderItems_nil]
      | cons label labels => simp [bind_eq_ok]

/-- Labels cannot be linked with too many places, and not from an empty list of bases either. -/
theorem exists_linked_eq_error (hc : c.Coherent) :
    (∃ e, linked c base labels = .error e)
      ↔ labels ≠ [] ∧ (placesLimit < c.precision ∨ base = .emptyList) := by
  unfold linked
  cases base with
  | value path => simp [exists_mapError_eq_error, hc.exists_renderItems_eq_error]
  | emptyList =>
      cases labels with
      | nil => simp [renderItems_nil, Bind.bind, Except.bind, pure, Except.pure, Except.mapError]
      | cons label labels =>
          refine iff_of_true ?_ ⟨by simp, Or.inr rfl⟩
          rw [exists_bind_eq_error]
          cases (renderItems c "" (label :: labels)) with
          | error e => exact Or.inl ⟨_, rfl⟩
          | ok text => exact Or.inr ⟨text, rfl, _, rfl⟩

/-! ## The markup -/

/-- The markup of a run. Its tag file can be read, its directive and its seed can be used, and what
is shown is the cloud that the library gives, in its page if one is asked for. An empty list of
bases does for a cloud without labels. -/
inductive Renders (fresh : Generator) (tree : File.Tree) (a : Arguments) : String → Prop
  | shown {bytes : List UInt8} {members : List (String × Json.Value)} {g : Generator}
      {c : Config Float} {path cloud : String} {later : Source}
      (hfile : tree.read (.ofText a.tagFile) = .ok bytes)
      (hread : readTagFile levels (File.Path.ofText a.tagFile).text bytes = .ok members)
      (hseed : seeded fresh a.seed = .ok (.generator g))
      (hdirective : Directive.parse a.directiveText = .ok c)
      (hcloud : renderDirective a.directiveText (Json.Value.toTags members) path (.generator g)
        = .ok (cloud, later))
      (hbase : a.tagDir = .value path ∨ a.tagDir = .emptyList ∧ cloud = "") :
      Renders fresh tree a (shownMarkup a c cloud)

/-- What a run fails at behind its tag file. -/
inductive Breaks (fresh : Generator) (a : Arguments) (tallies : List Tally) : Prop
  | digits (h : Directive.IsOverlong a.directiveText) : Breaks fresh a tallies
  | seed (h : BadSeed a.seed) : Breaks fresh a tallies
  | cloud {c : Config Float} {g : Generator} (hdirective : Directive.parse a.directiveText = .ok c)
      (hseed : seeded fresh a.seed = .ok (.generator g)) (hunshown : Unshown c g tallies) :
      Breaks fresh a tallies
  | base {c : Config Float} (hdirective : Directive.parse a.directiveText = .ok c)
      (hbase : a.tagDir = .emptyList) (hsome : qualifying c.threshold tallies ≠ []) :
      Breaks fresh a tallies

/-- What a run fails at: a tag file that is blocked, or something behind it. -/
inductive Fails (fresh : Generator) (tree : File.Tree) (a : Arguments) : Prop
  | file (h : Blocked tree (.ofText a.tagFile)) : Fails fresh tree a
  | behind {tallies : List Tally} (hholds : Holds tree (.ofText a.tagFile) tallies)
      (hbreaks : Breaks fresh a tallies) : Fails fresh tree a

theorem exists_markup_eq_ok :
    (∃ notes, markup fresh tree a = .ok (html, notes)) ↔ Renders fresh tree a html := by
  unfold markup
  simp only [bind_eq_ok, mapError_eq_ok, pure_eq_ok, Prod.mk.injEq, Prod.exists,
    readTallies_eq_ok, linked_eq_ok]
  constructor
  · rintro ⟨_, tallies, ⟨bytes, members, hfile, hread, htallies⟩, c, hdirective, source, hseed,
      labels, later, hbuild, cloud, ⟨path, hbase, hitems⟩, rfl, -⟩
    obtain ⟨g, rfl⟩ := generator_of_seeded hseed
    have hcloud : renderDirective a.directiveText (Json.Value.toTags members) path (.generator g)
        = .ok (cloud, later) :=
      renderDirective_eq_ok.2 ⟨c, tallies, labels, hdirective, htallies, hbuild, hitems⟩
    refine .shown hfile hread hseed hdirective hcloud (hbase.imp id ?_)
    rintro ⟨hempty, rfl⟩
    exact ⟨hempty, (Except.ok.inj hitems).symm⟩
  · rintro ⟨hfile, hread, hseed, hdirective, hcloud, hbase⟩
    obtain ⟨c', tallies, labels, hc', htallies, hbuild, hitems⟩ := renderDirective_eq_ok.1 hcloud
    obtain rfl := Except.ok.inj (hdirective.symm.trans hc')
    refine ⟨_, tallies, ⟨_, _, hfile, hread, htallies⟩, _, hdirective, _, hseed, labels, _, hbuild,
      _, ⟨_, hbase.imp id ?_, hitems⟩, rfl, rfl⟩
    rintro ⟨hempty, rfl⟩
    exact ⟨hempty, eq_nil_of_renderItems hitems⟩

/-- A cloud that a directive asks for is linked unless it cannot be shown, or there are labels and
no base for their links. -/
theorem unlinked_iff {g : Generator} (hc : c.Coherent) :
    ((∃ e, buildCloud c (.generator g) tallies = .error e)
        ∨ ∃ built, buildCloud c (.generator g) tallies = .ok built
          ∧ ∃ e, linked c base built.1 = .error e)
      ↔ Unshown c g tallies ∨ base = .emptyList ∧ qualifying c.threshold tallies ≠ [] := by
  rw [← hc.unshown_iff ""]
  cases hbuild : buildCloud c (.generator g) tallies with
  | error e => simp
  | ok built =>
      obtain ⟨labels, later⟩ := built
      have hsome := ne_nil_of_buildCloud hbuild
      simp only [exists_linked_eq_error hc, hc.exists_renderItems_eq_error, ← hsome, reduceCtorEq,
        exists_false, false_or, Except.ok.injEq, exists_eq_left']
      rw [and_or_left, and_comm (b := base = .emptyList)]

theorem breaks_iff :
    (Directive.IsOverlong a.directiveText
        ∨ ∃ c : Config Float, Directive.parse a.directiveText = .ok c
          ∧ (BadSeed a.seed ∨ ∃ source, seeded fresh a.seed = .ok source
            ∧ ((∃ e, buildCloud c source tallies = .error e)
              ∨ ∃ built, buildCloud c source tallies = .ok built
                ∧ ∃ e, linked c a.tagDir built.1 = .error e)))
      ↔ Breaks fresh a tallies := by
  constructor
  · rintro (hlong | ⟨c, hdirective, hseed | ⟨source, hsource, hlater⟩⟩)
    · exact .digits hlong
    · exact .seed hseed
    · obtain ⟨g, rfl⟩ := generator_of_seeded hsource
      have hcoherent := Directive.coherent_of_parse hdirective
      rcases (unlinked_iff hcoherent).1 hlater with hunshown | ⟨hbase, hsome⟩
      · exact .cloud hdirective hsource hunshown
      · exact .base hdirective hbase hsome
  · intro h
    -- The run fails at the first step that goes wrong, whichever of them `h` is about.
    cases hdirective : (Directive.parse a.directiveText : Except _ (Config Float)) with
    | error e => exact Or.inl (Directive.exists_parse_eq_error_iff.1 ⟨e, hdirective⟩)
    | ok c =>
        refine Or.inr ⟨c, rfl, ?_⟩
        cases hsource : seeded fresh a.seed with
        | error e => exact Or.inl (exists_seeded_eq_error.1 ⟨e, hsource⟩)
        | ok source =>
            obtain ⟨g, rfl⟩ := generator_of_seeded hsource
            refine Or.inr ⟨_, rfl, (unlinked_iff (Directive.coherent_of_parse hdirective)).2 ?_⟩
            rcases h with hlong | hseed | ⟨hc, hg, hunshown⟩ | ⟨hc, hbase, hsome⟩
            · obtain ⟨e, he⟩ := (Directive.exists_parse_eq_error_iff (R := Float)).2 hlong
              exact absurd (hdirective.symm.trans he) (by simp)
            · obtain ⟨e, he⟩ := exists_seeded_eq_error.2 hseed
              exact absurd (hsource.symm.trans he) (by simp)
            · obtain rfl := Except.ok.inj (hdirective.symm.trans hc)
              obtain rfl := Source.generator.inj (Except.ok.inj (hsource.symm.trans hg))
              exact Or.inl hunshown
            · obtain rfl := Except.ok.inj (hdirective.symm.trans hc)
              exact Or.inr ⟨hbase, hsome⟩

/-- Behind the tag file everything that is wrong is a failure. -/
theorem failsWith_markup {P : Ending → Prop} {d : Prop} (hP : ∀ f, P (.failed f) ↔ d) :
    FailsWith (fun e => P e.1) (markup fresh tree a)
      ↔ FailsWith P (readTallies tree (.ofText a.tagFile))
        ∨ (∃ tallies, Holds tree (.ofText a.tagFile) tallies ∧ Breaks fresh a tallies) ∧ d := by
  unfold markup
  simp only [failsWith_bind, failsWith_mapError, mapError_eq_ok, failsWith_pure, hP,
    Ending.unrendered, readTallies_eq_ok, and_false, exists_false, or_false, exists_and_right,
    Directive.exists_parse_eq_error_iff, exists_seeded_eq_error, ← and_assoc, ← or_and_right,
    breaks_iff]
  rfl

theorem markup_stopped {fault : TagFault} :
    FailsWith (fun e => e.1 = .stopped fault) (markup fresh tree a)
      ↔ Unfit tree (.ofText a.tagFile) fault := by
  rw [failsWith_markup (P := (· = .stopped fault)) (d := False) (by simp), readTallies_stopped]
  simp

theorem markup_failed :
    FailsWith (fun e => ∃ f, e.1 = .failed f) (markup fresh tree a) ↔ Fails fresh tree a := by
  rw [failsWith_markup (P := fun ending => ∃ f, ending = .failed f) (d := True) (by simp),
    readTallies_failed, and_true]
  constructor
  · rintro (hblocked | ⟨tallies, hholds, hbreaks⟩)
    · exact .file hblocked
    · exact .behind hholds hbreaks
  · rintro (hblocked | ⟨hholds, hbreaks⟩)
    · exact Or.inl hblocked
    · exact Or.inr ⟨_, hholds, hbreaks⟩

/-- Without markup a run stops or fails. -/
theorem markup_error {ending : Ending} {notes : List String}
    (h : markup fresh tree a = .error (ending, notes)) :
    (∃ fault, ending = .stopped fault) ∨ ∃ f, ending = .failed f := by
  by_contra hother
  have hfails : FailsWith (fun e => ¬ ((∃ fault, e.1 = .stopped fault) ∨ ∃ f, e.1 = .failed f))
      (markup fresh tree a) := ⟨_, h, hother⟩
  rw [failsWith_markup (P := fun ending => ¬ ((∃ fault, ending = .stopped fault)
    ∨ ∃ f, ending = .failed f)) (d := False) (by simp), and_false, or_false] at hfails
  obtain ⟨e, he, hneither⟩ := hfails
  exact hneither (readTallies_error he)

/-! ## The end of a run -/

end TagCloud.CommandLine
