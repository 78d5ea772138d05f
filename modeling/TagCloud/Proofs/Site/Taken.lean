import TagCloud.Proofs.File.Path
import TagCloud.Proofs.File.Tree
import TagCloud.Site.Request

/-!
# Taking files in

An upload does one of four things to the files: nothing but make directories, if the files stop it;
or it writes its bytes to the location of its second and its safe name, and then the file stays, is
taken away again because its contents are refused, or stays although the request fails. Which of
the three it is depends on the bytes and the location alone. Where a file is already, its bytes are
always written, since nothing is asked about the location before.
-/

namespace TagCloud.Site

open TagCloud.Text

variable {fresh : Generator} {tree tree' : File.Tree} {base l x : File.Location}
  {bytes : List UInt8} {site : Site}

/-! ## Where files are stored -/

/-- The directory of a project is given by names that are no dots, as a resolved path is. -/
def IsResolved (base : File.Location) : Prop :=
  ∀ name ∈ base, File.IsName name ∧ name ≠ ".."

theorem isDigit_of_mem_repr {n : Int} {c : Char} (h : c ∈ n.repr.toList) :
    c = '-' ∨ c.isDigit = true := by
  have hdigits : ∀ m : Nat, c ∈ m.repr.toList → c.isDigit = true := by
    intro m hmem
    rw [Nat.toList_repr] at hmem
    exact Nat.isDigit_of_mem_toDigits (by decide) (by decide) hmem
  rw [Int.repr_eq_if] at h
  split at h
  · exact Or.inr (hdigits _ h)
  · rw [String.toList_append, List.mem_append] at h
    rcases h with hsign | hmem
    · exact Or.inl (by simpa using hsign)
    · exact Or.inr (hdigits _ hmem)

theorem mem_of_mem_dropFringe {c : Char} {cs : List Char} (h : c ∈ dropFringe cs) : c ∈ cs := by
  rw [dropFringe, List.mem_reverse] at h
  have hinner := (List.dropWhile_sublist _).subset h
  rw [List.mem_reverse] at hinner
  exact (List.dropWhile_sublist _).subset hinner

/-- The name of a stored file has safe characters only. -/
theorem isSafe_of_mem_stored {now : Int} {name : String} {c : Char}
    (h : c ∈ (toString now ++ "-" ++ keptName now name).toList) : isSafe c = true := by
  have hwords : ∀ s ∈ ["-", "upload-", ".json"], ∀ d ∈ s.toList, isSafe d = true := by decide
  have hsecond : c ∈ (toString now).toList → isSafe c = true := by
    intro hmem
    rcases isDigit_of_mem_repr hmem with rfl | hdigit
    · decide
    · simp [isSafe, Char.isAlphanum, hdigit]
  have hkept : c ∈ (keptName now name).toList → isSafe c = true := by
    rw [keptName]
    split
    · simp only [String.toList_append, List.mem_append]
      rintro ((hmem | hmem) | hmem)
      · exact hwords "upload-" (by simp) c hmem
      · exact hsecond hmem
      · exact hwords ".json" (by simp) c hmem
    · intro hmem
      simp only [safeName, String.toList_ofList] at hmem
      exact (List.mem_filter.1 (mem_of_mem_dropFringe hmem)).2
  simp only [String.toList_append, List.mem_append] at h
  rcases h with (h | h) | h
  · exact hsecond h
  · exact hwords "-" (by simp) c h
  · exact hkept h

/-- The name of a stored file is a name. -/
theorem isName_stored (now : Int) (name : String) :
    File.IsName (toString now ++ "-" ++ keptName now name)
      ∧ toString now ++ "-" ++ keptName now name ≠ ".." := by
  have hhyphen : '-' ∈ (toString now ++ "-" ++ keptName now name).toList := by
    simp
  have hne : ∀ s : String, '-' ∉ s.toList → toString now ++ "-" ++ keptName now name ≠ s := by
    intro s hs heq
    exact hs (heq ▸ hhyphen)
  exact ⟨⟨hne _ (by decide), hne _ (by decide),
    fun hslash => absurd (isSafe_of_mem_stored hslash) (by decide)⟩, hne _ (by decide)⟩

theorem isResolved_stored (h : IsResolved base) (now : Int) (name : String) :
    IsResolved (base ++ storedNames now name) := by
  intro s hs
  rw [storedNames, uploadNames, List.mem_append, List.mem_append] at hs
  rcases hs with hs | hs | hs
  · exact h s hs
  · have hnames : s = "data" ∨ s = "uploads" := by simpa using hs
    rcases hnames with rfl | rfl
    · exact ⟨⟨by decide, by decide, by decide⟩, by decide⟩
    · exact ⟨⟨by decide, by decide, by decide⟩, by decide⟩
  · obtain rfl := List.mem_singleton.1 hs
    exact isName_stored now name

/-- The path of a location is read back from its text. -/
theorem ofText_text_absolute (h : IsResolved l) : File.Path.ofText (absolute l).text = absolute l :=
  File.Path.ofText_text fun name hname => (h name hname).1

theorem locate_absolute (h : IsResolved l) (hx : tree.locate (absolute l) = .ok x) : x = l :=
  File.Tree.locate_of_plain (fun hdots => (h _ hdots).2 rfl) hx

/-! ## One upload -/

/-- What the site makes of bytes that are stored at a location. -/
def verdict (l : File.Location) (bytes : List UInt8) : Except Trouble Nat := do
  let members ← (readTagFile levels (absolute l).text bytes).mapError unread
  let tallies ← ((Json.Value.toTags members).tallies).mapError fun e => .refused (.content (.tag e))
  return tallies.length

theorem countTags_of_read (h : tree.read (absolute l) = .ok bytes) :
    countTags tree l = verdict l bytes := by
  unfold countTags readTagFileAt
  rw [h]
  rfl

/-- A file is stored at a location, and its path leads there. -/
structure Holds (tree : File.Tree) (l : File.Location) (bytes : List UInt8) : Prop where
  leads : tree.locate (absolute l) = .ok l
  file : tree.at? l = some (.file bytes)

/-- The path by which a receipt names a file reads the file. -/
theorem read_stored_iff (hl : IsResolved l) (hleads : tree.locate (absolute l) = .ok l) :
    tree.read (.ofText (absolute l).text) = .ok bytes ↔ tree.at? l = some (.file bytes) := by
  rw [ofText_text_absolute hl, File.Tree.read_eq_ok]
  constructor
  · rintro ⟨x, hx, hfile⟩
    rwa [locate_absolute hl hx] at hfile
  · exact fun hfile => ⟨l, hleads, hfile⟩

/-- What taking bytes in comes to: they are not written, which happens only where no file is; or
they are written, and what becomes of them then is for the verdict to say. -/
inductive Taken (tree : File.Tree) (l : File.Location) (bytes : List UInt8) :
    Except Trouble Nat → File.Tree → Prop where
  | unwritten {grown : File.Tree} {f : Failure} (hgrow : tree.Grows grown)
      (hnothing : ∀ old, ¬ Holds tree l old) : Taken tree l bytes (.error (.failed f)) grown
  | kept {grown : File.Tree} {n : Nat} (hgrow : tree.Grows grown)
      (hfile : grown.at? l ≠ some .directory) (hleads : grown.locate (absolute l) = .ok l)
      (hverdict : verdict l bytes = .ok n) :
      Taken tree l bytes (.ok n) (grown.put l (.file bytes))
  | dropped {grown : File.Tree} {e : ContentError} (hgrow : tree.Grows grown)
      (hfile : grown.at? l ≠ some .directory)
      (hverdict : verdict l bytes = .error (.refused (.content e))) :
      Taken tree l bytes (.error (.refused (.upload e))) ((grown.put l (.file bytes)).erase l)
  | stranded {grown : File.Tree} {f : Failure} (hgrow : tree.Grows grown)
      (hfile : grown.at? l ≠ some .directory) (hverdict : verdict l bytes = .error (.failed f)) :
      Taken tree l bytes (.error (.failed f)) (grown.put l (.file bytes))

/-- Bytes are either a tag file, or refused for what they hold, or a failure. -/
theorem verdict_cases (l : File.Location) (bytes : List UInt8) :
    (∃ n, verdict l bytes = .ok n) ∨ (∃ e, verdict l bytes = .error (.refused (.content e)))
      ∨ ∃ f, verdict l bytes = .error (.failed f) := by
  unfold verdict
  cases hread : readTagFile levels (absolute l).text bytes with
  | error e =>
      cases e with
      | encoding e => exact Or.inr (Or.inl ⟨_, rfl⟩)
      | notAnObject path => exact Or.inr (Or.inl ⟨_, rfl⟩)
      | json e =>
          cases e with
          | malformed what line column offset => exact Or.inr (Or.inl ⟨_, rfl⟩)
          | tooManyDigits e => exact Or.inr (Or.inl ⟨_, rfl⟩)
          | tooDeep e => exact Or.inr (Or.inr ⟨_, rfl⟩)
  | ok members =>
      cases htallies : (Json.Value.toTags members).tallies with
      | error e =>
          refine Or.inr (Or.inl ⟨.tag e, ?_⟩)
          simp [Except.mapError, Bind.bind, Except.bind, htallies]
      | ok tallies =>
          refine Or.inl ⟨tallies.length, ?_⟩
          simp [Except.mapError, Bind.bind, Except.bind, htallies, pure, Except.pure]

/-- Where a file is, bytes are always written. -/
theorem write_of_holds {old : List UInt8} (h : Holds tree l old) (bytes : List UInt8) :
    tree.ensureDirectories (absolute l).parent = (none, tree)
      ∧ tree.write (absolute l) bytes = .ok (tree.put l (.file bytes)) := by
  have hfile : tree.at? l ≠ some .directory := by simp [h.file]
  have hl : l.dropLast ++ [l.getLast (File.Tree.ne_nil_of_at? hfile)] = l :=
    List.dropLast_append_getLast _
  have hparent : tree.isDirectory ⟨.top, l.dropLast⟩ = true := by
    have hleads := h.leads
    rw [← hl] at hleads
    exact File.Tree.isDirectory_of_locate hleads
  exact ⟨File.Tree.ensureDirectories_of_isDirectory hparent,
    File.Tree.write_eq_ok.2 ⟨l, h.leads, hfile, rfl⟩⟩

theorem taken_takeIn (hl : IsResolved l) (tree : File.Tree) (bytes : List UInt8) :
    Taken tree l bytes (takeIn tree l bytes).1 (takeIn tree l bytes).2 := by
  have hgrow := File.Tree.grows_ensureDirectories tree (absolute l).parent
  rcases hdirectories : tree.ensureDirectories (absolute l).parent with ⟨fault, grown⟩
  rw [hdirectories] at hgrow
  unfold takeIn
  rw [hdirectories]
  cases fault with
  | some e =>
      refine .unwritten hgrow fun old h => ?_
      have hnone := (write_of_holds h bytes).1
      exact absurd (congrArg Prod.fst (hdirectories.symm.trans hnone)) (by simp)
  | none =>
      cases hwrite : grown.write (absolute l) bytes with
      | error e =>
          simp only [hwrite]
          refine .unwritten hgrow fun old h => ?_
          obtain ⟨hnone, hwritten⟩ := write_of_holds h bytes
          obtain rfl := congrArg Prod.snd (hdirectories.symm.trans hnone)
          exact absurd (hwrite.symm.trans hwritten) (by simp)
      | ok written =>
          obtain ⟨x, hx, hfile, rfl⟩ := File.Tree.write_eq_ok.1 hwrite
          obtain rfl := locate_absolute hl hx
          have hcount := countTags_of_read (File.Tree.read_of_write hwrite)
          simp only [hwrite, hcount]
          rcases verdict_cases x bytes with ⟨n, hv⟩ | ⟨e, hv⟩ | ⟨f, hv⟩
          · simp only [hv]
            exact .kept hgrow hfile hx hv
          · simp only [hv]
            exact .dropped hgrow hfile hv
          · simp only [hv]
            exact .stranded hgrow hfile hv

/-! ## One request -/

/-- The file of a form that counts, if it has a name. -/
def chosen? (parts : List FilePart) : Option FilePart :=
  (parts.find? fun part => part.field = "file" && part.name.isSome).filter fun part =>
    part.name.getD "" ≠ ""

theorem upload_of_chosen {parts : List FilePart} {part : FilePart} (h : chosen? parts = some part)
    (tree : File.Tree) (base : File.Location) (now : Int) :
    upload tree base now parts = takeNamed tree base now (part.name.getD "") part.bytes := by
  obtain ⟨hfind, hname⟩ := Option.filter_eq_some_iff.1 h
  rw [decide_eq_true_eq] at hname
  unfold upload
  simp only [hfind]

theorem upload_of_not_chosen {parts : List FilePart} (h : chosen? parts = none) (tree : File.Tree)
    (base : File.Location) (now : Int) :
    ∃ r, upload tree base now parts = (.trouble (.refused r), tree) := by
  unfold upload
  cases hfind : parts.find? fun part => part.field = "file" && part.name.isSome with
  | none => exact ⟨_, rfl⟩
  | some part =>
      rw [chosen?, hfind] at h
      have hempty : part.name.getD "" = "" := by simpa using h
      simp only [hempty]
      exact ⟨_, rfl⟩

/-- The location at which a request stores a file, and the bytes of the file, if it brings one. -/
def Request.stores? (base : File.Location) : Request → Option (File.Location × List UInt8)
  | .upload now boundary body =>
    (chosen? (formParts boundary body)).map fun part =>
      (base ++ storedNames now (part.name.getD ""), part.bytes)
  | _ => none

/-- A request that brings a file is an upload with a part that counts. -/
theorem exists_of_stores {request : Request} (h : request.stores? base = some (l, bytes)) :
    ∃ now boundary body part, request = .upload now boundary body
      ∧ chosen? (formParts boundary body) = some part
      ∧ base ++ storedNames now (part.name.getD "") = l ∧ part.bytes = bytes := by
  cases request with
  | index directive => exact absurd h (by simp [Request.stores?])
  | render header body => exact absurd h (by simp [Request.stores?])
  | upload now boundary body =>
      obtain ⟨part, hchosen, hpart⟩ := Option.map_eq_some_iff.1 h
      obtain ⟨hl, hbytes⟩ := Prod.mk.inj hpart
      exact ⟨now, boundary, body, part, rfl, hchosen, hl, hbytes⟩

theorem isResolved_of_stores {request : Request} (hbase : IsResolved base)
    (h : request.stores? base = some (l, bytes)) : IsResolved l := by
  obtain ⟨now, _, _, part, -, -, rfl, -⟩ := exists_of_stores h
  exact isResolved_stored hbase now _

/-- A request that brings no file changes nothing and gets no receipt. -/
theorem answer_of_stores_none {request : Request} (h : request.stores? site.base = none) :
    (answer fresh site request).2 = site
      ∧ ∀ r, (answer fresh site request).1 ≠ .receipt r := by
  cases request with
  | index directive =>
      refine ⟨rfl, fun r => ?_⟩
      unfold answer showIndex
      simp only
      split
      · simp
      · simp
  | render header body =>
      refine ⟨rfl, fun r => ?_⟩
      unfold answer render
      simp only
      split
      · simp
      · split
        · simp
        · simp
  | upload now boundary body =>
      obtain ⟨refusal, hupload⟩ :=
        upload_of_not_chosen (Option.map_eq_none_iff.1 h) site.tree site.base now
      unfold answer
      simp only [hupload]
      exact ⟨trivial, fun r => by simp⟩

/-- What is told of taking bytes in: a receipt for the location, or what is wrong. -/
def Tells (l : File.Location) (reply : Answer) : Except Trouble Nat → Prop
  | .ok _ => ∃ r, reply = .receipt r ∧ r.stored = (absolute l).text
  | .error t => reply = .trouble t

/-- A request that brings a file takes it in and tells what came of it. -/
theorem answer_of_stores (fresh : Generator) {request : Request} (hbase : IsResolved site.base)
    (h : request.stores? site.base = some (l, bytes)) :
    ∃ outcome tree', Taken site.tree l bytes outcome tree'
      ∧ (answer fresh site request).2 = { site with tree := tree' }
      ∧ Tells l (answer fresh site request).1 outcome := by
  have htaken := taken_takeIn (isResolved_of_stores hbase h) site.tree bytes
  refine ⟨_, _, htaken, ?_⟩
  obtain ⟨now, boundary, body, part, rfl, hchosen, rfl, rfl⟩ := exists_of_stores h
  unfold answer
  simp only [upload_of_chosen hchosen, takeNamed]
  rcases takeIn site.tree (site.base ++ storedNames now (part.name.getD ""))
    part.bytes with ⟨outcome, tree⟩
  cases outcome with
  | ok n => exact ⟨rfl, _, rfl, rfl⟩
  | error t => exact ⟨rfl, rfl⟩

end TagCloud.Site
