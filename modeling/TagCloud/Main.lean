import TagCloud.CommandLine.Run

/-!
# The program

The program copies what a run will look at into a tree of files, lets the run decide, and carries
out what the run has decided: it prints, and it writes what the tree has that was not there before.
-/

open TagCloud

/-- Copies what is at a path into the tree. -/
def copyAt (tree : File.Tree) (path : File.Path) : IO File.Tree := do
  match tree.locate path with
  | .error _ => return tree
  | .ok l =>
    if (tree.at? l).isSome then return tree
    let place := (← IO.currentDir) / (File.Path.mk .top l).text
    if ← place.isDir then return tree.put l .directory
    else if ← place.pathExists then
      return tree.put l (.file (← IO.FS.readBinFile place).toList)
    else return tree

/-- Copies what is on the way to a path, and at its end, into the tree. -/
def copyAlong (tree : File.Tree) (path : File.Path) : IO File.Tree :=
  (List.range (path.names.length + 1)).foldlM
    (fun tree i => copyAt tree { path with names := path.names.take i }) tree

/-- Carries out what one tree has and the other has not. -/
def carryOut (before after : File.Tree) : IO Unit :=
  after.entries.forM fun (l, entry) => do
    if before.at? l ≠ some entry then
      let place := (File.Path.mk .top l).text
      match entry with
      | .directory => IO.FS.createDir place
      | .file bytes => IO.FS.writeBinFile place ⟨bytes.toArray⟩

/-- The tree that holds the working directory and nothing else. -/
def startingTree : IO File.Tree := do
  let here := (File.Path.ofText (← IO.currentDir).toString).names
  return { entries := (List.range here.length).map fun i => (here.take (i + 1), .directory), here }

/-- A generator that is new each time. -/
def freshGenerator : IO Generator := do
  let bytes ← IO.getRandomBytes 16
  return .ofSeed (bytes.toList.foldl (fun n b => n * 256 + b.toNat) 0)

/-- Runs the program. -/
def main (arguments : List String) : IO UInt32 := do
  let tree ← (CommandLine.pathsOf arguments).foldlM copyAlong (← startingTree)
  let o := CommandLine.run (← freshGenerator) tree arguments
  IO.eprint o.errors
  if let .failed e := o.ending then IO.eprintln e.message
  carryOut tree o.tree
  IO.print o.printed
  return UInt32.ofNat o.ending.exitCode
