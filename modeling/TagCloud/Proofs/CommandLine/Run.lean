import TagCloud.CommandLine.Run
import TagCloud.Proofs.Cloud
import TagCloud.Proofs.File.Tree

/-!
# What a run shows

A run whose tag file can be read shows the cloud of its directive, and nothing but the cloud when no
page is asked for. To the standard output it goes as it is; in an output file it is found again in
UTF-8, with the directories on the way made first. Past the cloud only the files can stop a run.
-/

namespace TagCloud.CommandLine

variable {fresh : Generator} {tree : File.Tree} {a : Arguments} {bytes : List UInt8}
  {members : List (String × Json.Value)} {directive base html : String} {seed : Nat}
  {later : Source}

/-- Arguments that ask for the plain cloud of a directive, with a base for its links and a seed. -/
structure Arguments.AsksFor (a : Arguments) (directive base : String) (seed : Nat) : Prop where
  directive : a.directive = .value directive
  tagDir : a.tagDir = .value base
  seed : a.seed = some (.value seed)
  page : a.page = false

theorem readTallies_of_read {p : File.Path} {tallies : List Tally} (hfile : tree.read p = .ok bytes)
    (hread : readTagFile levels p.text bytes = .ok members)
    (htallies : (Json.Value.toTags members).tallies = .ok tallies) :
    readTallies tree p = .ok tallies := by
  have hthere := File.Tree.hasEntry_of_read hfile
  unfold readTallies
  simp [hthere, hfile, hread, htallies, Except.mapError, Bind.bind, Except.bind]

/-- A run has shown some markup: on the standard output, or in the output file, of which it then
printed the path. -/
def Outcome.Shows (o : Outcome) (html : String) : Option String → Prop
  | none => o.ending = .finished ∧ o.printed = html
  | some output =>
    o.ending = .finished ∧ o.printed = (File.Path.ofText output).text ++ "\n"
      ∧ o.tree.read (.ofText output) = .ok (Text.encodeUtf8 html)

section

variable {ending : Ending} {notes : List String} {output : String} {e : File.FileError}
  {tree' : File.Tree}

theorem run_eq_runWith {arguments : List String} (h : Arguments.parse arguments = .ok a) :
    run fresh tree arguments = runWith fresh tree a := by
  unfold run
  simp only [h]

/-- Without markup nothing is printed and no file is touched. -/
theorem runWith_of_error (h : markup fresh tree a = .error (ending, notes)) :
    runWith fresh tree a = ⟨ending, "", if a.verbose then notes else [], tree⟩ := by
  unfold runWith
  simp only [h]

theorem runWith_of_markup (h : markup fresh tree a = .ok (html, notes))
    (houtput : a.output = none) :
    runWith fresh tree a = ⟨.finished, html, if a.verbose then notes else [], tree⟩ := by
  unfold runWith
  simp only [h, houtput]

theorem runWith_of_written (h : markup fresh tree a = .ok (html, notes))
    (houtput : a.output = some output)
    (hwrite : writeOutput tree (.ofText output) html = (none, tree')) :
    runWith fresh tree a
      = ⟨.finished, (File.Path.ofText output).text ++ "\n", if a.verbose then notes else [],
          tree'⟩ := by
  unfold runWith
  simp only [h, houtput, hwrite]

theorem runWith_of_unwritten (h : markup fresh tree a = .ok (html, notes))
    (houtput : a.output = some output)
    (hwrite : writeOutput tree (.ofText output) html = (some e, tree')) :
    runWith fresh tree a
      = ⟨.failed (.file e), "", if a.verbose then notes else [], tree'⟩ := by
  unfold runWith
  simp only [h, houtput, hwrite]

end

end TagCloud.CommandLine
