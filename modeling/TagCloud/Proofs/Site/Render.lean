import TagCloud.Proofs.Cloud
import TagCloud.Proofs.File.Tree
import TagCloud.Site.Request

/-!
# What a request for a cloud gets

A request that is an object with a directive, a base and a seed gets the cloud that the library
gives for its tags, whether it brings them along or names a tag file of the project that holds them.
-/

namespace TagCloud.Site

variable {fresh : Generator} {tree : File.Tree} {base l : File.Location} {header : String}
  {body bytes : List UInt8} {fields members : List (String × Json.Value)} {path : String}
  {directive tagDir html : String} {seed : Nat} {later : Source}

/-- A request that asks for the cloud of a directive, with a base for its links and a seed. -/
structure AsksFor (fields : List (String × Json.Value)) (directive tagDir : String)
    (seed : Nat) : Prop where
  directive : member "directive" fields = .string directive
  tagDir : member "tagDir" fields = .string tagDir
  seed : member "seed" fields = .whole seed

/-- A path names the tag file at a location of the project: its dots lead there, below the directory
of the project, and the name is that of a tag file. -/
structure NamesTagFile (base l : File.Location) (path : String) : Prop where
  whole : '\x00' ∉ path.toList
  leads : destination base (.ofText path) = l
  below : isBelow base l = true
  named : namesTagFile l = true

/-- The tags that a request gives: those it brings along, or those in a file of the project that it
names. -/
inductive Gives (tree : File.Tree) (base : File.Location) (fields : List (String × Json.Value))
    (members : List (String × Json.Value)) : Prop where
  | along (h : member "tags" fields = .object members)
  | named {path : String} {l : File.Location} {bytes : List UInt8}
      (htags : member "tags" fields = .null) (hpath : member "jsonPath" fields = .string path)
      (hnames : NamesTagFile base l path) (hfile : tree.read (absolute l) = .ok bytes)
      (hread : readTagFile levels (absolute l).text bytes = .ok members)

/-- A request in a single encoding, whose text is read as an object. -/
theorem payload_of_value {request : String}
    (hdecode : Json.decode? (Text.encodeUtf8 request) = some request.toList)
    (hvalue : Json.parseWithin levels request.toList = .ok (.object fields)) :
    payload "application/json" (Text.encodeUtf8 request) = .ok fields := by
  have hjson : isJson "application/json" = true := by decide +kernel
  unfold payload
  simp only [hjson, hdecode, Option.map_some, hvalue]
  rfl

theorem answer_render (fresh : Generator) (site : Site) (header : String) (body : List UInt8) :
    answer fresh site (.render header body)
      = (render fresh site.tree site.base header body, site) := by
  rw [answer]

/-! ## The tags -/

theorem ne_empty_of_namesTagFile (h : NamesTagFile base l path) : path.isEmpty = false := by
  cases hempty : path.isEmpty with
  | false => rfl
  | true =>
      have hpath : path = "" := by simpa using hempty
      have hl : base = l := by
        rw [← h.leads, hpath]
        rfl
      have hbelow := h.below
      rw [← hl, isBelow] at hbelow
      simp at hbelow

theorem locateTagFile_of_namesTagFile (h : NamesTagFile base l path)
    (hfile : tree.read (absolute l) = .ok bytes) : locateTagFile tree base path = .ok l := by
  obtain ⟨x, hx, hat⟩ := File.Tree.read_eq_ok.1 hfile
  have hthere : tree.hasEntry (absolute l) = .ok true := by
    rw [File.Tree.hasEntry, hx]
    simp [hat]
  have hwhole : path.toList.contains '\x00' = false := by simpa using h.whole
  rw [locateTagFile, h.leads]
  simp only [hwhole, h.below, h.named, hthere]
  rfl

/-- A request gets the tags that it brings along or names. -/
theorem requestedTags_of_gives (h : Gives tree base fields members) :
    requestedTags tree base fields = .ok members := by
  cases h with
  | along htags => rw [requestedTags, htags]
  | @named path l bytes htags hpath hnames hfile hread =>
      have hempty : (Json.Value.string path).isEmpty = false := ne_empty_of_namesTagFile hnames
      have hload : loadTagFile tree base path = .ok members := by
        unfold loadTagFile readTagFileAt
        simp only [bind_eq_ok, mapError_eq_ok]
        exact ⟨l, locateTagFile_of_namesTagFile hnames hfile, bytes, hfile, hread⟩
      rw [requestedTags, htags]
      simp only [hpath, hempty]
      exact hload

/-! ## The cloud -/

end TagCloud.Site
