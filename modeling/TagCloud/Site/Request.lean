import TagCloud.Site.Render
import TagCloud.Site.Upload

/-!
# The site

The site is the directory of a project in a tree of files. Everything that it remembers is in the
files, so a request is answered from the tree as it is and leaves a tree behind; only uploads change
it. The time and a generator for clouds without a seed come from outside.
-/

namespace TagCloud

/-- The directory of a project in a tree of files. -/
structure Site where
  base : File.Location
  tree : File.Tree

namespace Site

/-- A request. -/
inductive Request where
  | index (directive : Option String)
  | render (header : String) (body : List UInt8)
  | upload (now : Int) (boundary body : List UInt8)
  deriving Repr

/-- The answer to a request, and the site that is left behind. -/
def answer (fresh : Generator) (site : Site) : Request → Answer × Site
  | .index directive => (showIndex fresh site.tree site.base directive, site)
  | .render header body => (render fresh site.tree site.base header body, site)
  | .upload now boundary body =>
    let (answer, tree) := upload site.tree site.base now (formParts boundary body)
    (answer, { site with tree })

/-- The answers to requests that come one after the other, and the site that is left behind. -/
def serve (fresh : Generator) (site : Site) : List Request → List Answer × Site
  | [] => ([], site)
  | request :: requests =>
    let (first, site) := answer fresh site request
    let (others, site) := serve fresh site requests
    (first :: others, site)

end Site

end TagCloud
