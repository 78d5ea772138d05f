import TagCloud.Cloud
import TagCloud.File.Tree
import TagCloud.Json.Parser
import TagCloud.Seed

/-!
# Failures

What is wrong with something that was handed in is answered by whoever took it in. What is left,
which nobody has an answer for, is a failure: it ends a run of the command line, and it is the
site's own fault.
-/

namespace TagCloud

/-- What nobody has an answer for. -/
inductive Failure where
  | file (e : File.FileError)
  | seed (e : SeedError)
  | render (e : RenderError)
  | base (kind : Kind)
  | depth (e : Json.TooDeep)
  deriving Repr, DecidableEq

/-- The text that goes with a failure. -/
def Failure.message : Failure → String
  | .file e => e.message
  | .seed e => e.message
  | .render e => e.message
  | .base kind => "'" ++ kind.name ++ "' object has no attribute 'rstrip'"
  | .depth e => e.message

end TagCloud
