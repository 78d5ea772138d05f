import TagCloud.Proofs.Site.Index
import TagCloud.Proofs.Site.Receipt
import TagCloud.Proofs.Text.Lower

/-!
# Which paths lead to tag files

A path in a text may be spelled in many ways: from the root or from the directory of the project,
through directories that do not exist, out of the project and back in, with slashes and dots to
spare. What it comes to is told here from the text alone, name by name, and that is the location
that is asked for. A tag file is found at it exactly if it is below the directory of the project,
its last name ends as that of a tag file, something is there, and it can be looked up at all; so
that nothing a request says about paths makes an answer depend on files outside the project.
-/

namespace TagCloud.Site

open TagCloud.Text

variable {fresh : Generator} {tree tree' : File.Tree} {base l l' x : File.Location}
  {path : String} {cs : List Char}

/-! ## Spellings -/

/-- A text leads from one location to another one: slashes and single dots stay where they are, two
dots go up, and any other name goes into a directory. -/
inductive Leads : File.Location → List Char → File.Location → Prop
  | done {l : File.Location} : Leads l [] l
  | slash {l l' : File.Location} {cs : List Char} (h : Leads l cs l') : Leads l ('/' :: cs) l'
  | here {l l' : File.Location} {cs : List Char} (hend : Stops (· ≠ '/') cs) (h : Leads l cs l') :
      Leads l ('.' :: cs) l'
  | up {l l' : File.Location} {cs : List Char} (hend : Stops (· ≠ '/') cs)
      (h : Leads l.dropLast cs l') : Leads l ('.' :: '.' :: cs) l'
  | into {l l' : File.Location} {name : String} {cs : List Char} (hname : File.IsName name)
      (hdots : name ≠ "..") (hend : Stops (· ≠ '/') cs) (h : Leads (l ++ [name]) cs l') :
      Leads l (name.toList ++ cs) l'

/-- A path spells a location, from the root if it begins with a slash and otherwise from the
directory of the project. -/
def Spells (base : File.Location) (path : String) (l : File.Location) : Prop :=
  Leads (if path.toList.head? = some '/' then [] else base) path.toList l

theorem Leads.follow_eq (h : Leads l cs l') : follow l (File.namesOf cs) = l' := by
  induction h with
  | done => rfl
  | slash h ih => rwa [File.namesOf_slash]
  | @here l l' cs hend h ih =>
      have hnames := File.namesOf_append ['.'] hend
      rw [List.singleton_append] at hnames
      rwa [hnames]
  | @up l l' cs hend h ih =>
      have hnames : File.namesOf ('.' :: '.' :: cs) = ".." :: File.namesOf cs :=
        File.namesOf_append ['.', '.'] hend
      rw [hnames, follow, List.foldl_cons, if_pos rfl]
      exact ih
  | @into l l' name cs hname hdots hend h ih =>
      rw [File.namesOf_append _ hend, File.namesOf_name hname, List.singleton_append, follow,
        List.foldl_cons, if_neg hdots]
      exact ih

/-- A name in a text leads one step on. -/
theorem exists_leads_append {front : List Char} (hfront : '/' ∉ front) (hne : front ≠ [])
    (hend : Stops (· ≠ '/') cs) (h : ∀ l, ∃ l', Leads l cs l') (l : File.Location) :
    ∃ l', Leads l (front ++ cs) l' := by
  by_cases hhere : front = ['.']
  · obtain ⟨l', hl'⟩ := h l
    exact ⟨l', hhere ▸ .here hend hl'⟩
  · by_cases hup : front = ['.', '.']
    · obtain ⟨l', hl'⟩ := h l.dropLast
      exact ⟨l', hup ▸ .up hend hl'⟩
    · obtain ⟨name, rfl⟩ : ∃ name : String, name.toList = front :=
        ⟨String.ofList front, String.toList_ofList⟩
      have hname : File.IsName name :=
        ⟨fun h => hne (by rw [h]; rfl), fun h => hhere (by rw [h]; rfl), hfront⟩
      obtain ⟨l', hl'⟩ := h (l ++ [name])
      exact ⟨l', .into hname (fun h => hup (by rw [h]; rfl)) hend hl'⟩

/-- Every text leads somewhere. -/
theorem exists_leads (cs : List Char) (l : File.Location) : ∃ l', Leads l cs l' := by
  -- On the length of the text, since a name takes any number of characters off it.
  induction hlength : cs.length using Nat.strong_induction_on generalizing cs l with
  | _ n ih =>
    cases cs with
    | nil => exact ⟨l, .done⟩
    | cons c rest =>
        by_cases hslash : c = '/'
        · obtain ⟨l', h⟩ := ih rest.length (by simp [← hlength]) rest l rfl
          exact ⟨l', hslash ▸ .slash h⟩
        · have hfront : '/' ∉ (c :: rest).takeWhile (· ≠ '/') := fun h => by
            simpa using List.mem_takeWhile_imp h
          have hne : (c :: rest).takeWhile (· ≠ '/') ≠ [] := by simp [hslash]
          have hshorter : ((c :: rest).dropWhile (· ≠ '/')).length < n := by
            rw [List.dropWhile_cons_of_pos (by simpa using hslash), ← hlength, List.length_cons]
            exact Nat.lt_succ_of_le (List.dropWhile_sublist _).length_le
          have hleads := exists_leads_append hfront hne (stops_dropWhile _ _)
            (fun l => ih _ hshorter _ l rfl) l
          rwa [List.takeWhile_append_dropWhile] at hleads

theorem Leads.eq (h : Leads l cs l') (hx : Leads l cs x) : l' = x :=
  h.follow_eq.symm.trans hx.follow_eq

theorem leads_iff : Leads l cs l' ↔ follow l (File.namesOf cs) = l' := by
  obtain ⟨x, hx⟩ := exists_leads cs l
  rw [hx.follow_eq]
  exact ⟨fun h => hx.eq h, fun h => h ▸ hx⟩

theorem rootOf_eq_here : File.rootOf cs = .here ↔ cs.head? ≠ some '/' := by
  unfold File.rootOf
  cases cs with
  | nil => simp
  | cons c cs =>
      by_cases hc : c = '/'
      · rw [hc, List.takeWhile_cons_of_pos (by simp), List.length_cons]
        refine iff_of_false ?_ (by simp)
        split
        · next hnone => exact absurd hnone (Nat.succ_ne_zero _)
        · simp
        · simp
      · rw [List.takeWhile_cons_of_neg (by simpa using hc)]
        simp [hc]

theorem spells_iff : Spells base path l ↔ destination base (.ofText path) = l := by
  have hroot : (if path.toList.head? = some '/' then [] else base)
      = if File.rootOf path.toList = .here then base else [] := by
    by_cases hslash : path.toList.head? = some '/'
    · rw [if_pos hslash, if_neg (by simpa [rootOf_eq_here] using hslash)]
    · rw [if_neg hslash, if_pos (rootOf_eq_here.2 hslash)]
  rw [Spells, leads_iff, hroot]
  rfl

/-- Whatever holds of the names of a location and of every name in a text holds of the names of the
location that the text leads to. -/
theorem Leads.forall_names {P : String → Prop} (h : Leads l cs l') (hl : ∀ name ∈ l, P name)
    (hcs : ∀ name, File.IsName name → name ≠ ".." → name.toList ⊆ cs → P name) :
    ∀ name ∈ l', P name := by
  induction h with
  | done => exact hl
  | slash h ih =>
      refine ih hl fun name hname hdots hsub => ?_
      exact hcs name hname hdots (List.subset_cons_of_subset _ hsub)
  | here hend h ih =>
      refine ih hl fun name hname hdots hsub => ?_
      exact hcs name hname hdots (List.subset_cons_of_subset _ hsub)
  | up hend h ih =>
      refine ih (fun name hname => hl name (List.dropLast_subset _ hname)) ?_
      intro name hname hdots hsub
      exact hcs name hname hdots
        (List.subset_cons_of_subset _ (List.subset_cons_of_subset _ hsub))
  | @into l l' last cs hname hdots hend h ih =>
      refine ih (fun name hmem => ?_) fun name hname hdots hsub =>
        hcs name hname hdots (List.subset_append_of_subset_right _ hsub)
      rcases List.mem_append.1 hmem with hmem | hmem
      · exact hl name hmem
      · obtain rfl := List.mem_singleton.1 hmem
        exact hcs name hname hdots (List.subset_append_left _ _)

/-- The directory of a project: a resolved one whose path can be handed on. -/
structure IsProject (base : File.Location) : Prop where
  resolved : IsResolved base
  whole : ∀ name ∈ base, '\x00' ∉ name.toList

theorem Spells.isProject (h : Spells base path l) (hbase : IsProject base)
    (hpath : '\x00' ∉ path.toList) : IsProject l := by
  have hstart : ∀ {P : String → Prop}, (∀ name ∈ base, P name) →
      ∀ name ∈ (if path.toList.head? = some '/' then [] else base), P name := by
    intro P hP name hname
    split at hname
    · exact absurd hname (by simp)
    · exact hP name hname
  exact ⟨h.forall_names (hstart hbase.resolved) fun _ hname hdots _ => ⟨hname, hdots⟩,
    h.forall_names (hstart hbase.whole) fun _ _ _ hsub hnull => hpath (hsub hnull)⟩

theorem IsProject.isPlain (h : IsProject l) : File.Tree.IsPlain l where
  noDots := fun hdots => (h.resolved _ hdots).2 rfl
  whole := by
    rw [File.Path.toList_text _ _ (by simp), List.mem_append]
    rintro (hroot | hnames)
    · exact absurd hroot (by decide)
    · rcases File.mem_intercalate_slash hnames with hslash | ⟨cs, hcs, hnull⟩
      · exact absurd hslash (by decide)
      · obtain ⟨name, hname, rfl⟩ := List.mem_map.1 hcs
        exact h.whole name hname hnull

/-! ## Names of tag files -/

/-- A name that ends as that of a tag file, in any letter case, and has something before it. -/
def EndsInJson (name : String) : Prop :=
  ∃ stem ending, stem ≠ [] ∧ name.toList = stem ++ '.' :: ending
    ∧ ending.map Char.toLower = ['j', 's', 'o', 'n']

theorem exists_of_suffixOf {name : String} (h : suffixOf name ≠ "") :
    ∃ stem ending, stem ≠ [] ∧ name.toList = stem ++ '.' :: ending
      ∧ suffixOf name = String.ofList ('.' :: ending) := by
  let reversed := name.toList.reverse
  let last := reversed.takeWhile (· ≠ '.')
  have hsplit : last ++ reversed.dropWhile (· ≠ '.') = reversed := List.takeWhile_append_dropWhile
  have hsuffix : suffixOf name = if !last.isEmpty && last.length + 1 < reversed.length then
      String.ofList ('.' :: last.reverse) else "" := rfl
  split at hsuffix
  · next hinner =>
      have hlong : last.length + 1 < reversed.length := by
        simp only [Bool.and_eq_true, decide_eq_true_eq] at hinner
        exact hinner.2
      have hstops := stops_dropWhile (· ≠ '.') reversed
      rw [← hsplit, List.length_append] at hlong
      cases hdrop : reversed.dropWhile (· ≠ '.') with
      | nil =>
          rw [hdrop] at hlong
          simp at hlong
      | cons c before =>
          rw [hdrop] at hlong hsplit hstops
          obtain rfl : c = '.' := by simpa using hstops c rfl
          refine ⟨before.reverse, last.reverse, ?_, ?_, hsuffix⟩
          · rintro hnil
            obtain rfl := List.reverse_eq_nil_iff.1 hnil
            simp at hlong
          · have hname : name.toList = (last ++ '.' :: before).reverse := by
              rw [hsplit, List.reverse_reverse]
            rw [hname]
            simp
  · exact absurd hsuffix h

theorem lower_suffixOf_iff {name : String} :
    lower (suffixOf name) = ".json" ↔ EndsInJson name := by
  have hending : ∀ ending : List Char, lower (String.ofList ('.' :: ending)) = ".json"
      ↔ ending.map Char.toLower = ['j', 's', 'o', 'n'] := by
    intro ending
    rw [lower_eq_iff (by decide), String.toList_ofList, List.map_cons]
    have hjson : ".json".toList = '.' :: ['j', 's', 'o', 'n'] := by decide
    rw [hjson]
    simp
  constructor
  · intro hlower
    have hne : suffixOf name ≠ "" := by
      intro hempty
      rw [hempty] at hlower
      exact absurd hlower (by decide)
    obtain ⟨stem, ending, hstem, hname, hsuffix⟩ := exists_of_suffixOf hne
    rw [hsuffix] at hlower
    exact ⟨stem, ending, hstem, hname, (hending ending).1 hlower⟩
  · rintro ⟨stem, ending, hstem, hname, hjson⟩
    have hdot : '.' ∉ ending := by
      intro hmem
      have hmapped := List.mem_map_of_mem (f := Char.toLower) hmem
      rw [hjson] at hmapped
      exact absurd hmapped (by decide)
    have hne : ending ≠ [] := by
      rintro rfl
      exact absurd hjson (by simp)
    rw [suffixOf_of_toList hname hstem hdot, if_neg hne]
    exact (hending ending).2 hjson

/-- A location whose last name is that of a tag file. -/
def IsTagFile (l : File.Location) : Prop :=
  ∃ dir name, l = dir ++ [name] ∧ EndsInJson name

theorem namesTagFile_iff : namesTagFile l = true ↔ IsTagFile l := by
  unfold namesTagFile
  constructor
  · intro h
    split at h
    · next name hlast =>
        obtain ⟨dir, rfl⟩ := List.getLast?_eq_some_iff.1 hlast
        exact ⟨dir, name, rfl, lower_suffixOf_iff.1 (of_decide_eq_true h)⟩
    · exact absurd h (by simp)
  · rintro ⟨dir, name, rfl, hjson⟩
    simp [lower_suffixOf_iff.2 hjson]

/-! ## Locations below the project -/

/-- A location is below another one, name by name. -/
def Below (base l : File.Location) : Prop :=
  ∃ names, names ≠ [] ∧ l = base ++ names

theorem Below.isPrefix (h : Below base l) : base <+: l := by
  obtain ⟨names, -, rfl⟩ := h
  exact List.prefix_append base names

theorem isBelow_iff : isBelow base l = true ↔ Below base l := by
  rw [isBelow, Bool.and_eq_true, List.isPrefixOf_iff_prefix, decide_eq_true_eq]
  constructor
  · rintro ⟨⟨names, rfl⟩, hlong⟩
    refine ⟨names, ?_, rfl⟩
    rintro rfl
    simp at hlong
  · rintro ⟨names, hne, rfl⟩
    exact ⟨List.prefix_append base names, by simpa using List.length_pos_of_ne_nil hne⟩

/-! ## Looking for a tag file -/

theorem namesTagFile_of_spells (hpath : '\x00' ∉ path.toList) (h : Spells base path l)
    (hbelow : Below base l) (hnamed : IsTagFile l) : NamesTagFile base l path where
  whole := hpath
  leads := spells_iff.1 h
  below := isBelow_iff.2 hbelow
  named := namesTagFile_iff.2 hnamed

theorem locateTagFile_of_null (tree : File.Tree) (base : File.Location)
    (h : '\x00' ∈ path.toList) :
    locateTagFile tree base path = .error (.refused (.path .nullByte)) := by
  have hnull : path.toList.contains '\x00' = true := by simpa using h
  rw [locateTagFile]
  simp only [hnull]
  rfl

theorem locateTagFile_of_not_below (tree : File.Tree) (hpath : '\x00' ∉ path.toList)
    (h : Spells base path l) (hbelow : ¬ Below base l) :
    locateTagFile tree base path = .error (.refused (.path .outside)) := by
  have hwhole : path.toList.contains '\x00' = false := by simpa using hpath
  have houtside : isBelow base l = false := Bool.not_eq_true _ ▸ mt isBelow_iff.1 hbelow
  rw [locateTagFile, spells_iff.1 h]
  simp only [hwhole, houtside]
  rfl

theorem locateTagFile_of_not_isTagFile (tree : File.Tree) (hpath : '\x00' ∉ path.toList)
    (h : Spells base path l) (hbelow : Below base l) (hnamed : ¬ IsTagFile l) :
    locateTagFile tree base path = .error (.refused (.path (.suffix path))) := by
  have hwhole : path.toList.contains '\x00' = false := by simpa using hpath
  have hother : namesTagFile l = false := Bool.not_eq_true _ ▸ mt namesTagFile_iff.1 hnamed
  rw [locateTagFile, spells_iff.1 h]
  simp only [hwhole, isBelow_iff.2 hbelow, hother]
  rfl

/-- What comes of looking for the tag file at the location that a path spells. It is found; or the
path is refused, because it leads out of the project, does not end as that of a tag file or leads to
nothing; or the location cannot be looked up, and the request fails. -/
structure Judged (tree : File.Tree) (base l : File.Location) (path : String)
    (outcome : Except Trouble File.Location) : Prop where
  found : ∀ x, outcome = .ok x
    ↔ x = l ∧ Below base l ∧ IsTagFile l ∧ tree.Has l ∧ ¬ tree.TooLong l
  outside : outcome = .error (.refused (.path .outside)) ↔ ¬ Below base l
  suffix : outcome = .error (.refused (.path (.suffix path))) ↔ Below base l ∧ ¬ IsTagFile l
  missing : outcome = .error (.refused (.path (.missing path)))
    ↔ Below base l ∧ IsTagFile l ∧ ¬ tree.Has l ∧ ¬ tree.TooLong l
  tooLong : (∃ e, outcome = .error (.failed (.file e)))
    ↔ Below base l ∧ IsTagFile l ∧ tree.TooLong l

theorem judged_locateTagFile (tree : File.Tree) (hl : IsProject l)
    (hpath : '\x00' ∉ path.toList) (h : Spells base path l) :
    Judged tree base l path (locateTagFile tree base path) := by
  by_cases hbelow : Below base l
  · by_cases hnamed : IsTagFile l
    · have htrue := File.Tree.hasEntry_eq_true (t := tree) hl.isPlain
      have hfalse := File.Tree.hasEntry_eq_false (t := tree) hl.isPlain
      have htooLong := File.Tree.hasEntry_eq_tooLong (t := tree) hl.isPlain
      rw [locateTagFile_of_names (namesTagFile_of_spells hpath h hbelow hnamed), absolute]
      cases hentry : tree.hasEntry ⟨.top, l⟩ with
      | error e =>
          have hlong := htooLong.1 ⟨e, hentry⟩
          constructor <;> simp [hbelow, hnamed, hlong]
      | ok there =>
          cases there with
          | true =>
              obtain ⟨hhas, hshort⟩ := htrue.1 hentry
              constructor <;> simp [hbelow, hnamed, hhas, hshort, eq_comm]
          | false =>
              obtain ⟨hnone, hshort⟩ := hfalse.1 hentry
              constructor <;> simp [hbelow, hnamed, hnone, hshort]
    · rw [locateTagFile_of_not_isTagFile tree hpath h hbelow hnamed]
      constructor <;> simp [hbelow, hnamed]
  · rw [locateTagFile_of_not_below tree hpath h hbelow]
    constructor <;> simp [hbelow]

/-! ## Files outside the project -/

theorem exists_spells (base : File.Location) (path : String) : ∃ l, Spells base path l :=
  exists_leads _ _

theorem locateTagFile_sameFrom (hbase : IsProject base)
    (h : File.Tree.SameFrom base tree tree') (path : String) :
    locateTagFile tree base path = locateTagFile tree' base path := by
  by_cases hpath : '\x00' ∈ path.toList
  · rw [locateTagFile_of_null tree base hpath, locateTagFile_of_null tree' base hpath]
  · obtain ⟨l, hl⟩ := exists_spells base path
    by_cases hbelow : Below base l
    · by_cases hnamed : IsTagFile l
      · have hnames := namesTagFile_of_spells hpath hl hbelow hnamed
        have hentry := h.hasEntry_eq hbelow.isPrefix (hl.isProject hbase hpath).isPlain
        rw [locateTagFile_of_names hnames, locateTagFile_of_names hnames, absolute, hentry]
      · rw [locateTagFile_of_not_isTagFile tree hpath hl hbelow hnamed,
          locateTagFile_of_not_isTagFile tree' hpath hl hbelow hnamed]
    · rw [locateTagFile_of_not_below tree hpath hl hbelow,
        locateTagFile_of_not_below tree' hpath hl hbelow]

theorem loadTagFile_sameFrom (hbase : IsProject base)
    (h : File.Tree.SameFrom base tree tree') (path : String) :
    loadTagFile tree base path = loadTagFile tree' base path := by
  rw [loadTagFile, loadTagFile, ← locateTagFile_sameFrom hbase h]
  cases hlocate : locateTagFile tree base path with
  | error t => rfl
  | ok x =>
      have hpath : '\x00' ∉ path.toList := by
        intro hnull
        exact absurd (hlocate.symm.trans (locateTagFile_of_null tree base hnull)) (by simp)
      obtain ⟨l, hl⟩ := exists_spells base path
      have hproject := hl.isProject hbase hpath
      obtain ⟨rfl, hbelow, -, hfound⟩ :=
        ((judged_locateTagFile tree hproject hpath hl).found x).1 hlocate
      have hread : tree.read (absolute x) = tree'.read (absolute x) :=
        h.read_eq hbelow.isPrefix hproject.isPlain
          ((File.Tree.hasEntry_eq_true hproject.isPlain).2 hfound)
      show readTagFileAt tree x = readTagFileAt tree' x
      rw [readTagFileAt, readTagFileAt, hread]

/-- A request for a cloud is answered from what the project holds. -/
theorem render_sameFrom (fresh : Generator) (hbase : IsProject base)
    (h : File.Tree.SameFrom base tree tree') (header : String) (body : List UInt8) :
    render fresh tree base header body = render fresh tree' base header body := by
  have htags : ∀ fields, requestedTags tree base fields = requestedTags tree' base fields := by
    intro fields
    unfold requestedTags
    simp only [loadTagFile_sameFrom hbase h]
  unfold render rendering
  simp only [htags]

/-- Tag files are confined to the project. A path without null bytes spells exactly one location,
which is a resolved one; the location is given back exactly if it is below the directory of the
project, ends as that of a tag file, holds something and can be looked up, and each of the first
three that fails has its own refusal. So a request for a cloud is answered the same whatever is
outside the project. -/
theorem locateTagFile_confined (hbase : IsProject base) (tree : File.Tree) :
    (∀ path : String, '\x00' ∉ path.toList → ∃ l, (∀ x, Spells base path x ↔ x = l)
        ∧ IsProject l ∧ Judged tree base l path (locateTagFile tree base path))
      ∧ ∀ fresh tree', File.Tree.SameFrom base tree tree' → ∀ header body,
        (answer fresh ⟨base, tree⟩ (.render header body)).1
          = (answer fresh ⟨base, tree'⟩ (.render header body)).1 := by
  refine ⟨fun path hpath => ?_, fun fresh tree' h header body => ?_⟩
  · obtain ⟨l, hl⟩ := exists_spells base path
    have hproject := hl.isProject hbase hpath
    refine ⟨l, fun x => ⟨fun hx => hx.eq hl, fun hx => hx ▸ hl⟩, hproject, ?_⟩
    exact judged_locateTagFile tree hproject hpath hl
  · simp only [answer_render]
    exact render_sameFrom fresh hbase h header body

theorem isProject_site : IsProject ["site"] where
  resolved := by
    intro name hname
    obtain rfl := List.mem_singleton.1 hname
    exact ⟨⟨by decide, by decide, by decide⟩, by decide⟩
  whole := by decide

/-- Out of the project and back in, through a directory that does not exist. -/
theorem roundabout_path_found :
    IsProject ["site"] ∧ locateTagFile (siteHolding "\x7b\x7d").tree ["site"]
      "gone/../../site//./data/tags.json/" = .ok ["site", "data", "tags.json"] := by
  let tree := (siteHolding "\x7b\x7d").tree
  refine ⟨isProject_site, ?_⟩
  obtain ⟨l, hspells, hproject, hjudged⟩ := (locateTagFile_confined isProject_site tree).1
    "gone/../../site//./data/tags.json/" (by decide)
  obtain rfl : ["site", "data", "tags.json"] = l := (hspells _).1 (spells_iff.2 (by decide))
  have hjson : EndsInJson "tags.json" :=
    ⟨"tags".toList, "json".toList, by decide, by decide, by decide⟩
  have hfound : tree.hasEntry ⟨.top, ["site", "data", "tags.json"]⟩ = .ok true := by
    decide +kernel
  exact (hjudged.found _).2 ⟨rfl, ⟨["data", "tags.json"], by decide, rfl⟩,
    ⟨["site", "data"], _, rfl, hjson⟩, (File.Tree.hasEntry_eq_true hproject.isPlain).1 hfound⟩

/-- A name that is longer than names can be is neither found nor refused. -/
theorem long_name_fails :
    let name := String.ofList (List.replicate 251 'a') ++ ".json"
    ∃ e, locateTagFile (siteHolding "\x7b\x7d").tree ["site"] name
      = .error (.failed (.file e)) := by
  intro name
  let tree := (siteHolding "\x7b\x7d").tree
  have htext : name.toList = List.replicate 251 'a' ++ ['.', 'j', 's', 'o', 'n'] := by
    rw [String.toList_append, String.toList_ofList]
    rfl
  have hmem : ∀ c ∈ name.toList, c ∈ ['a', '.', 'j', 's', 'o', 'n'] := by
    intro c hc
    rw [htext, List.mem_append] at hc
    rcases hc with hc | hc
    · rw [List.eq_of_mem_replicate hc]
      exact List.mem_cons_self
    · exact List.mem_cons_of_mem _ hc
  have hplain : ∀ c, c ∉ ['a', '.', 'j', 's', 'o', 'n'] → c ∉ name.toList :=
    fun c hc hin => hc (hmem c hin)
  have hne : ∀ s : String, 'j' ∉ s.toList → name ≠ s := by
    rintro s hs rfl
    exact hs (htext ▸ List.mem_append_right _ (by decide))
  have hspells : Spells ["site"] name ["site", name] := by
    have hleads : Leads ["site"] (name.toList ++ []) ["site", name] :=
      .into ⟨hne _ (by decide), hne _ (by decide), hplain _ (by decide)⟩ (hne _ (by decide))
        (fun _ hc => absurd hc (by simp)) .done
    rw [List.append_nil] at hleads
    rw [Spells, if_neg]
    · exact hleads
    · intro hslash
      exact hplain '/' (by decide) (List.mem_of_mem_head? hslash)
  have hlong : tree.TooLong ["site", name] := by
    have hsite : tree.Way ([] ++ ["site"]) :=
      File.Tree.way_concat.2 ⟨File.Tree.way_nil tree, File.Tree.at?_nil tree⟩
    have hway : tree.Way (["site"] ++ [name]) := File.Tree.way_concat.2 ⟨hsite, by decide⟩
    exact .name List.prefix_rfl hway (by decide +kernel)
  have hproject := hspells.isProject isProject_site (hplain _ (by decide))
  have hjudged := judged_locateTagFile tree hproject (hplain _ (by decide)) hspells
  refine hjudged.tooLong.2 ⟨⟨[name], by simp, rfl⟩, ⟨["site"], name, rfl, ?_⟩, hlong⟩
  exact ⟨_, _, by decide, htext, by decide⟩

end TagCloud.Site
