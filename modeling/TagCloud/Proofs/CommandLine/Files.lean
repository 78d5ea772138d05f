import TagCloud.Proofs.CommandLine.Ending

/-!
# What a run does to the files

A run writes last. Until its markup is finished it only reads, so that whatever it stops at or fails
at before leaves the tree as it is. Then it makes the directories on the way to the output file and
writes the file, and while it may still fail at either, it has not touched a file until the one that
it writes is written. What it leaves behind when it is finished differs from what it found in that
file, which holds the markup, and in directories on the way to it.

That the new directories are above the file is said in terms of the path, since with two dots in it
the way to a file may lead through directories that are not above it. Without dots it does not.
-/

namespace TagCloud.CommandLine

open File (Tree Path Location)

variable {fresh : Generator} {tree tree' : Tree} {a : Arguments} {p : Path} {l : Location}
  {html : String}

/-- A tree differs from what it was before in a file, to which a path leads, and in directories on
the way of the path. -/
structure Written (t : Tree) (p : Path) (bytes : List UInt8) (l : Location) (t' : Tree) :
    Prop where
  leads : t'.locate p = .ok l
  noDirectory : t.at? l ≠ some .directory
  file : t'.at? l = some (.file bytes)
  others : ∀ x, x ≠ l → t'.at? x = t.at? x
    ∨ t.at? x = none ∧ t'.at? x = some .directory ∧ t'.Passes p.parent x
      ∧ (".." ∉ p.names → x <+: l)

/-! ## Writing the output -/

theorem passes_of_parent {x : Location} (h : tree.Passes p.parent x) : tree.Passes p x := by
  obtain ⟨names, hnames, hlocate⟩ := h
  exact ⟨names, hnames.trans (List.dropLast_prefix _), hlocate⟩

theorem written_of_writeOutput {text : String} (h : writeOutput tree p text = (none, tree')) :
    ∃ l, Written tree p (Text.encodeUtf8 text) l tree' := by
  have hgrows := File.Tree.growsOn_ensureDirectories tree p.parent
  unfold writeOutput at h
  split at h
  · exact absurd (congrArg Prod.fst h) (by simp)
  · next grown hgrown =>
      rw [hgrown] at hgrows
      split at h
      · exact absurd (congrArg Prod.fst h) (by simp)
      · next written hwrite =>
          obtain rfl := congrArg Prod.snd h
          obtain ⟨l, hl, hfile, rfl⟩ := File.Tree.write_eq_ok.1 hwrite
          have hkeeps : grown.Keeps (grown.put l (.file (Text.encodeUtf8 text))) :=
            File.Tree.keeps_put hfile
          have hat : ∀ x, (grown.put l (.file (Text.encodeUtf8 text))).at? x
              = if x = l then some (.file (Text.encodeUtf8 text)) else grown.at? x :=
            fun x => File.Tree.at?_put (File.Tree.ne_nil_of_at? hfile)
          refine ⟨l, File.Tree.locate_of_keeps hkeeps hl, ?_, ?_, ?_⟩
          · exact fun hdir => hfile (hgrows.keeps.directories l hdir)
          · rw [hat, if_pos rfl]
          · intro x hx
            rw [hat, if_neg hx]
            rcases hgrows.entries x with heq | ⟨hnone, hdir⟩
            · exact Or.inl heq
            · have hpasses := hgrows.passes x hnone hdir
              refine Or.inr ⟨hnone, hdir, hpasses.of_keeps hkeeps, fun hdots => ?_⟩
              exact (passes_of_parent hpasses).isPrefix hdots hl

/-- When the output cannot be written nothing but directories has been made. -/
theorem grows_of_writeOutput {text : String} {e : File.FileError}
    (h : writeOutput tree p text = (some e, tree')) : tree.Grows tree' := by
  have hgrows := File.Tree.grows_ensureDirectories tree p.parent
  unfold writeOutput at h
  split at h
  · next grown hgrown =>
      rw [hgrown] at hgrows
      obtain rfl := congrArg Prod.snd h
      exact hgrows
  · next grown hgrown =>
      rw [hgrown] at hgrows
      split at h
      · obtain rfl := congrArg Prod.snd h
        exact hgrows
      · exact absurd (congrArg Prod.fst h) (by simp)

/-! ## The files after a run -/

theorem not_unfit_of_markup {notes : List String} (h : markup fresh tree a = .ok (html, notes)) :
    ¬ ((∃ fault, Unfit tree (.ofText a.tagFile) fault) ∨ Fails fresh tree a) := by
  rintro (⟨fault, hunfit⟩ | hfails)
  · have hstopped : FailsWith _ (markup fresh tree a) := markup_stopped.2 hunfit
    rw [h] at hstopped
    exact failsWith_ok hstopped
  · rw [← markup_failed, h] at hfails
    exact failsWith_ok hfails

/-- What a finished run has done with its markup: it has printed it and left the tree as it is, or
written it to the output file and printed the path of that. -/
def Outcome.Leaves (o : Outcome) (tree : Tree) (html : String) : Option String → Prop
  | none => o.tree = tree ∧ o.printed = html
  | some output =>
    (∃ l, Written tree (.ofText output) (Text.encodeUtf8 html) l o.tree)
      ∧ o.printed = (Path.ofText output).text ++ "\n"

/-- What a run has printed and what it has done to the files. Unless it is finished it has printed
nothing and touched no file, and what is wrong before it comes to writing leaves the tree as it
is. -/
structure Outcome.DamagesNothing (o : Outcome) (fresh : Generator) (tree : Tree) (a : Arguments) :
    Prop where
  unfinished : o.ending ≠ .finished → o.printed = ""
    ∧ ∀ x bytes, o.tree.at? x = some (.file bytes) ↔ tree.at? x = some (.file bytes)
  early : (∃ fault, Unfit tree (.ofText a.tagFile) fault) ∨ Fails fresh tree a →
    o.ending ≠ .finished ∧ o.tree = tree
  finished : o.ending = .finished → ∃ html, Renders fresh tree a html ∧ o.Leaves tree html a.output

theorem run_damagesNothing (fresh : Generator) (tree : Tree) {arguments : List String}
    (hparse : Arguments.parse arguments = .ok a) :
    (run fresh tree arguments).DamagesNothing fresh tree a := by
  rw [run_eq_runWith hparse]
  cases hmarkup : markup fresh tree a with
  | error e =>
      obtain ⟨ending, notes⟩ := e
      have hending : ending ≠ .finished := by
        rcases markup_error hmarkup with ⟨fault, rfl⟩ | ⟨f, rfl⟩
        · simp
        · simp
      rw [runWith_of_error hmarkup]
      exact ⟨fun _ => ⟨rfl, fun _ _ => Iff.rfl⟩, fun _ => ⟨hending, rfl⟩,
        fun hfinished => absurd hfinished hending⟩
  | ok shown =>
      obtain ⟨html, notes⟩ := shown
      have hrenders := exists_markup_eq_ok.1 ⟨notes, hmarkup⟩
      have hunfit := not_unfit_of_markup hmarkup
      cases houtput : a.output with
      | none =>
          rw [runWith_of_markup hmarkup houtput]
          refine ⟨fun h => absurd rfl h, fun h => absurd h hunfit, fun _ => ⟨html, hrenders, ?_⟩⟩
          rw [houtput]
          exact ⟨rfl, rfl⟩
      | some output =>
          rcases hwrite : writeOutput tree (.ofText output) html with ⟨fault, written⟩
          cases fault with
          | some e =>
              rw [runWith_of_unwritten hmarkup houtput hwrite]
              have hgrows := grows_of_writeOutput hwrite
              exact ⟨fun _ => ⟨rfl, fun _ _ => hgrows.file_iff⟩, fun h => absurd h hunfit,
                fun h => absurd h (by simp)⟩
          | none =>
              rw [runWith_of_written hmarkup houtput hwrite]
              refine ⟨fun h => absurd rfl h, fun h => absurd h hunfit,
                fun _ => ⟨html, hrenders, ?_⟩⟩
              rw [houtput]
              exact ⟨written_of_writeOutput hwrite, rfl⟩

/-- A run whose output file is the tag file, behind a directory that is not there. -/
theorem run_damagesNothing_over :
    ∃ a, Arguments.parse ["tags.json", "out/../tags.json"] = .ok a
      ∧ (run (Generator.ofSeed 0) ⟨[(["tags.json"], .file (Text.encodeUtf8 "\x7b\x7d"))], []⟩
        ["tags.json", "out/../tags.json"]).DamagesNothing (Generator.ofSeed 0)
          ⟨[(["tags.json"], .file (Text.encodeUtf8 "\x7b\x7d"))], []⟩ a :=
  ⟨_, rfl, run_damagesNothing (Generator.ofSeed 0)
    ⟨[(["tags.json"], .file (Text.encodeUtf8 "\x7b\x7d"))], []⟩ rfl⟩

end TagCloud.CommandLine
