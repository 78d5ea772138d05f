import Mathlib
import TagCloud.Proofs.Site.Render
import TagCloud.Proofs.Site.Uploads
import TagCloud.Proofs.Text.Span

/-!
# What a receipt is good for

A receipt names the stored file by a path that requests for clouds may carry. An upload is judged by
what it holds, but a path by where it leads and by how its last name ends. The stored file is below
the directory of the project and it is there, so of all that a path is asked for only the ending is
left, and that one comes from the name that the client gave. With the ending of a tag file, naming
the stored file is as good as bringing its tags along; with any other one the receipt is of no use.
-/

namespace TagCloud.Site

open TagCloud.Text

variable {fresh : Generator} {tree : File.Tree} {base l : File.Location} {site : Site}
  {bytes : List UInt8} {fields fields' members : List (String × Json.Value)} {r : Receipt}

/-! ## How stored names end -/

theorem forall_ne_dot {cs : List Char} (h : '.' ∉ cs) :
    ∀ c ∈ cs.reverse, decide (c ≠ '.') = true := by
  intro c hc
  rw [decide_eq_true_eq]
  rintro rfl
  exact h (List.mem_reverse.1 hc)

theorem suffixOf_of_not_mem {name : String} (h : '.' ∉ name.toList) : suffixOf name = "" := by
  have hlast : name.toList.reverse.takeWhile (· ≠ '.') = name.toList.reverse := by
    have htake : (name.toList.reverse ++ []).takeWhile (· ≠ '.') = name.toList.reverse :=
      takeWhile_append_stop (forall_ne_dot h) (by simp [Stops])
    rwa [List.append_nil] at htake
  unfold suffixOf
  simp only [hlast]
  simp

/-- The ending of a name begins at its last dot. -/
theorem suffixOf_of_toList {name : String} {front last : List Char}
    (h : name.toList = front ++ '.' :: last) (hfront : front ≠ []) (hlast : '.' ∉ last) :
    suffixOf name = if last = [] then "" else String.ofList ('.' :: last) := by
  have hreverse : name.toList.reverse = last.reverse ++ '.' :: front.reverse := by
    rw [h]
    simp
  have htake : name.toList.reverse.takeWhile (· ≠ '.') = last.reverse := by
    rw [hreverse]
    exact takeWhile_append_stop (forall_ne_dot hlast) (stops_cons (by decide))
  have hlong : last.reverse.length + 1 < name.toList.reverse.length := by
    have := List.length_pos_of_ne_nil hfront
    simp [hreverse]
    omega
  unfold suffixOf
  simp only [htake, hlong, decide_true, Bool.and_true]
  cases last with
  | nil => rfl
  | cons c last => simp

/-- A beginning without dots does not change how a name ends that begins with no dot. -/
theorem suffixOf_append {front name : String} (hfront : '.' ∉ front.toList)
    (hname : name.toList.head? ≠ some '.') : suffixOf (front ++ name) = suffixOf name := by
  by_cases hdot : '.' ∈ name.toList
  · obtain ⟨last, before, hreverse, hlast⟩ :=
      List.eq_append_cons_of_mem (List.mem_reverse.2 hdot)
    have hsplit : name.toList = before.reverse ++ '.' :: last.reverse := by
      rw [← List.reverse_reverse name.toList, hreverse]
      simp
    have hbefore : before.reverse ≠ [] := by
      intro hnil
      rw [hsplit, hnil] at hname
      exact hname rfl
    have hwhole : (front ++ name).toList
        = (front.toList ++ before.reverse) ++ '.' :: last.reverse := by
      rw [String.toList_append, hsplit, List.append_assoc]
    have hlast : '.' ∉ last.reverse := by simpa using hlast
    rw [suffixOf_of_toList hsplit hbefore hlast,
      suffixOf_of_toList hwhole (by simp [hbefore]) hlast]
  · rw [suffixOf_of_not_mem hdot, suffixOf_of_not_mem]
    rw [String.toList_append, List.mem_append, not_or]
    exact ⟨hfront, hdot⟩

theorem head?_dropFringe {cs : List Char} {c : Char} (h : (dropFringe cs).head? = some c) :
    isFringe c = false := by
  obtain ⟨behind, hbehind⟩ : dropFringe cs <+: cs.dropWhile isFringe := by
    have hsuffix := List.dropWhile_suffix isFringe (l := (cs.dropWhile isFringe).reverse)
    rwa [← List.reverse_prefix, List.reverse_reverse] at hsuffix
  have hhead : (cs.dropWhile isFringe).head? = some c := by
    rw [← hbehind, List.head?_append, h]
    rfl
  rw [← List.find?_not_eq_head?_dropWhile] at hhead
  simpa using List.find?_some hhead

theorem head?_keptName (now : Int) (name : String) :
    (keptName now name).toList.head? ≠ some '.' := by
  rw [keptName]
  split
  · simp
  · intro h
    rw [safeName, String.toList_ofList] at h
    exact absurd (head?_dropFringe h) (by decide)

/-- A stored file ends as the name does that was kept. -/
theorem suffixOf_stored (now : Int) (name : String) :
    suffixOf (toString now ++ "-" ++ keptName now name) = suffixOf (keptName now name) := by
  refine suffixOf_append ?_ (head?_keptName now name)
  intro h
  rw [String.toList_append, List.mem_append] at h
  rcases h with h | h
  · exact absurd (isDigit_of_mem_repr h) (by decide)
  · exact absurd h (by decide)

/-! ## Receipts -/

/-- What a receipt tells of an upload: the path by which requests may name the stored file, the name
that was kept, and the path from the root. -/
structure TellsOf (base : File.Location) (now : Int) (given : String) (r : Receipt) : Prop where
  path : r.path = (File.Path.mk .here (storedNames now given)).text
  name : r.name = keptName now given
  stored : r.stored = (absolute (base ++ storedNames now given)).text

theorem exists_of_receipt {request : Request} (h : (answer fresh site request).1 = .receipt r) :
    ∃ now given bytes, request.stores? site.base = some (site.base ++ storedNames now given, bytes)
      ∧ TellsOf site.base now given r := by
  cases hstores : request.stores? site.base with
  | none => exact absurd h ((answer_of_stores_none hstores).2 r)
  | some stored =>
      obtain ⟨now, boundary, body, part, rfl, hchosen, hl, hbytes⟩ := exists_of_stores hstores
      refine ⟨now, part.name.getD "", part.bytes, by rw [hl, hbytes], ?_⟩
      have htaken : (takeNamed site.tree site.base now (part.name.getD "") part.bytes).1
          = .receipt r := by
        rw [← upload_of_chosen hchosen]
        exact h
      unfold takeNamed at htaken
      simp only at htaken
      split at htaken
      · exact absurd htaken (by simp)
      · obtain ⟨path, name, stored, count⟩ := r
        simp only [Answer.receipt.injEq, Receipt.mk.injEq] at htaken
        exact ⟨htaken.1.symm, htaken.2.1.symm, htaken.2.2.1.symm⟩

/-! ## Naming a stored file -/

/-- Names without two dots are followed one below the other. -/
theorem follow_of_ne_dots {names : List String} (h : ∀ name ∈ names, name ≠ "..") :
    follow l names = l ++ names := by
  induction names generalizing l with
  | nil => simp [follow]
  | cons name names ih =>
      have hname : name ≠ ".." := h name List.mem_cons_self
      have hrest : follow (l ++ [name]) names = l ++ [name] ++ names :=
        ih fun n hn => h n (List.mem_cons_of_mem name hn)
      rw [follow, List.foldl_cons, if_neg hname, ← follow, hrest, List.append_assoc,
        List.singleton_append]

/-- The path of a receipt leads from the directory of the project to the stored file. -/
theorem destination_stored (base : File.Location) (now : Int) (given : String) :
    destination base (.ofText (File.Path.mk .here (storedNames now given)).text)
      = base ++ storedNames now given := by
  have hresolved : IsResolved ([] ++ storedNames now given) :=
    isResolved_stored (fun _ h => absurd h (by simp)) now given
  rw [File.Path.ofText_text fun name hname => (hresolved name hname).1, destination, if_pos rfl]
  exact follow_of_ne_dots fun name hname => (hresolved name hname).2

theorem isBelow_stored (base : File.Location) (now : Int) (given : String) :
    isBelow base (base ++ storedNames now given) = true := by
  simp [isBelow, storedNames, uploadNames]

theorem namesTagFile_stored (base : File.Location) (now : Int) (given : String) :
    namesTagFile (base ++ storedNames now given)
      = (Text.lower (suffixOf (keptName now given)) = ".json" : Bool) := by
  rw [namesTagFile, storedNames, uploadNames]
  simp only [← List.append_assoc, List.getLast?_append, List.getLast?_singleton, Option.some_or,
    suffixOf_stored]

theorem toList_text_stored (now : Int) (given : String) :
    (File.Path.mk .here (storedNames now given)).text.toList
      = "data/uploads/".toList ++ (toString now ++ "-" ++ keptName now given).toList := by
  rw [File.Path.toList_text _ _ fun _ => by simp [storedNames]]
  simp [storedNames, uploadNames, File.Path.rootText, List.intercalate]

theorem null_not_mem_stored (now : Int) (given : String) :
    '\x00' ∉ (File.Path.mk .here (storedNames now given)).text.toList := by
  rw [toList_text_stored, List.mem_append, not_or]
  exact ⟨by decide, fun h => absurd (isSafe_of_mem_stored h) (by decide)⟩

/-- A receipt for a file whose name ends as that of a tag file names a tag file. -/
theorem namesTagFile_receipt {now : Int} {given : String} (htells : TellsOf base now given r)
    (hending : Text.lower (suffixOf r.name) = ".json") :
    NamesTagFile base (base ++ storedNames now given) r.path where
  whole := by
    rw [htells.path]
    exact null_not_mem_stored now given
  leads := by
    rw [htells.path]
    exact destination_stored base now given
  below := isBelow_stored base now given
  named := by
    rw [namesTagFile_stored, ← htells.name, hending]
    rfl

/-- A request that names the file of any other receipt is refused. -/
theorem requestedTags_receipt {now : Int} {given : String} (htells : TellsOf base now given r)
    (hending : Text.lower (suffixOf r.name) ≠ ".json") (htags : member "tags" fields = .null)
    (hpath : member "jsonPath" fields = .string r.path) :
    requestedTags tree base fields = .error (.refused (.path (.suffix r.path))) := by
  have hwhole : r.path.toList.contains '\x00' = false := by
    rw [htells.path]
    simpa using null_not_mem_stored now given
  have hleads : destination base (.ofText r.path) = base ++ storedNames now given := by
    rw [htells.path]
    exact destination_stored base now given
  have hnamed : namesTagFile (base ++ storedNames now given) = false := by
    rw [namesTagFile_stored, ← htells.name]
    simpa using hending
  have hlocate : locateTagFile tree base r.path
      = .error (.refused (.path (.suffix r.path))) := by
    rw [locateTagFile, hleads]
    simp only [hwhole, isBelow_stored, hnamed]
    rfl
  have hempty : (Json.Value.string r.path).isEmpty = false := by
    rw [htells.path, Json.Value.isEmpty, ← Bool.not_eq_true, String.isEmpty_iff]
    intro hnil
    exact absurd ((toList_text_stored now given).symm.trans (congrArg String.toList hnil)) (by simp)
  have hload : loadTagFile tree base (Json.Value.string r.path).text
      = .error (.refused (.path (.suffix r.path))) := by
    have htext : (Json.Value.string r.path).text = r.path := rfl
    rw [htext, loadTagFile, hlocate]
    rfl
  rw [requestedTags, htags]
  simp only [hpath, hempty]
  exact hload

/-! ## Clouds from stored files -/

/-- A request for a cloud that names the file of a receipt. -/
structure NamesReceipt (r : Receipt) (header : String) (body : List UInt8)
    (fields : List (String × Json.Value)) : Prop where
  payload : payload header body = .ok fields
  tags : member "tags" fields = .null
  path : member "jsonPath" fields = .string r.path

/-- A request for a cloud that brings tags along. -/
structure BringsAlong (members : List (String × Json.Value)) (header : String) (body : List UInt8)
    (fields : List (String × Json.Value)) : Prop where
  payload : payload header body = .ok fields
  tags : member "tags" fields = .object members

/-- Two requests for clouds that ask for the same, apart from the tags. -/
structure AskAlike (fields fields' : List (String × Json.Value)) : Prop where
  directive : member "directive" fields = member "directive" fields'
  tagDir : member "tagDir" fields = member "tagDir" fields'
  seed : member "seed" fields = member "seed" fields'

/-- The cloud that an answer shows. -/
def Answer.cloud? : Answer → Option Rendering
  | .cloud r => some r
  | _ => none

/-- Two answers have the same status and show the same cloud, if they show one. -/
structure SameCloud (a a' : Answer) : Prop where
  status : a.status = a'.status
  cloud : a.cloud? = a'.cloud?

theorem SameCloud.refl (a : Answer) : SameCloud a a :=
  ⟨rfl, rfl⟩

theorem sameCloud_refused_iff {refusal : Refusal} {a : Answer} (h : refusal.status = 400) :
    SameCloud (.trouble (.refused refusal)) a ↔ a.status = 400 := by
  constructor
  · exact fun hsame => hsame.status.symm.trans h
  · intro hstatus
    refine ⟨h.trans hstatus.symm, ?_⟩
    cases a with
    | cloud r => exact absurd hstatus (by simp [Answer.status])
    | page html => rfl
    | receipt r => rfl
    | trouble t => rfl

theorem render_alike (fresh : Generator) {header header' : String} {body body' : List UInt8}
    (hpayload : payload header body = .ok fields) (hpayload' : payload header' body' = .ok fields')
    (htags : requestedTags tree base fields = requestedTags tree base fields')
    (halike : AskAlike fields fields') :
    render fresh tree base header body = render fresh tree base header' body' := by
  have hrendering : rendering fresh tree base fields = rendering fresh tree base fields' := by
    rw [rendering, rendering, htags, halike.directive, halike.tagDir, halike.seed]
  unfold render
  simp only [hpayload, hpayload', hrendering]

theorem render_of_requestedTags_error (fresh : Generator) {header : String} {body : List UInt8}
    {t : Trouble}
    (hpayload : payload header body = .ok fields)
    (htags : requestedTags tree base fields = .error t) :
    render fresh tree base header body = .trouble t := by
  have hrendering : rendering fresh tree base fields = .error t := by
    rw [rendering, htags]
    rfl
  unfold render
  simp only [hpayload, hrendering]

/-- A request that names a stored file is answered as the one that brings its tags along, exactly if
the name that was kept ends as that of a tag file, or that other request is refused, too. -/
theorem render_receipt_iff {request : Request} {later : Site} {header header' : String}
    {body body' : List UInt8} (hbase : IsResolved site.base)
    (hreceipt : (answer fresh site request).1 = .receipt r)
    (hstores : request.stores? site.base = some (l, bytes))
    (hmembers : readTagFile levels r.stored bytes = .ok members)
    (hlater : later.base = site.base)
    (hunchanged : later.tree.read (.ofText r.stored) = .ok bytes)
    (hnames : NamesReceipt r header body fields)
    (hbrings : BringsAlong members header' body' fields') (halike : AskAlike fields fields') :
    SameCloud (answer fresh later (.render header body)).1
        (answer fresh later (.render header' body')).1
      ↔ Text.lower (suffixOf r.name) = ".json"
        ∨ (answer fresh later (.render header' body')).1.status = 400 := by
  obtain ⟨now, given, bytes', hstored, htells⟩ := exists_of_receipt hreceipt
  obtain ⟨rfl, rfl⟩ := Prod.mk.inj (Option.some.inj (hstores.symm.trans hstored))
  have hl := isResolved_of_stores hbase hstores
  have hfile : later.tree.read (absolute (site.base ++ storedNames now given)) = .ok bytes := by
    rwa [htells.stored, ofText_text_absolute hl] at hunchanged
  have hbrought : requestedTags later.tree later.base fields' = .ok members :=
    requestedTags_of_gives (.along hbrings.tags)
  simp only [answer_render]
  by_cases hending : Text.lower (suffixOf r.name) = ".json"
  · have hnamed : requestedTags later.tree later.base fields = .ok members := by
      rw [htells.stored] at hmembers
      refine requestedTags_of_gives (.named hnames.tags hnames.path ?_ hfile hmembers)
      rw [hlater]
      exact namesTagFile_receipt htells hending
    have hsame := render_alike fresh hnames.payload hbrings.payload
      (hnamed.trans hbrought.symm) halike
    rw [hsame]
    exact iff_of_true (SameCloud.refl _) (Or.inl hending)
  · rw [← hlater] at htells
    have htags : requestedTags later.tree later.base fields
        = .error (.refused (.path (.suffix r.path))) :=
      requestedTags_receipt htells hending hnames.tags hnames.path
    have hrefused := render_of_requestedTags_error fresh hnames.payload htags
    rw [hrefused, sameCloud_refused_iff rfl, or_iff_right hending]

/-! ## One file under two names -/

/-- What the receipt of an answer tells, if it is one. -/
def Answer.receipt? : Answer → Option Receipt
  | .receipt r => some r
  | _ => none

theorem eq_receipt_of_receipt? {a : Answer} (h : a.receipt? = some r) : a = .receipt r := by
  cases a with
  | receipt r' => exact congrArg Answer.receipt (Option.some.inj h)
  | page html => exact absurd h (by simp [Answer.receipt?])
  | cloud shown => exact absurd h (by simp [Answer.receipt?])
  | trouble t => exact absurd h (by simp [Answer.receipt?])

theorem render_receipt_iff_json :
    let upload := uploadOf 1700000000 "tags.json" "\x7b\"a\":1\x7d"
    let later := (answer (Generator.ofSeed 0) emptySite upload).2
    SameCloud
      (answer (Generator.ofSeed 0) later (.render "application/json"
        (encodeUtf8 "\x7b\"jsonPath\":\"data/uploads/1700000000-tags.json\"\x7d"))).1
      (answer (Generator.ofSeed 0) later (.render "application/json"
        (encodeUtf8 "\x7b\"tags\":\x7b\"a\":1\x7d\x7d"))).1 := by
  intro upload later
  have hreceipt : (answer (Generator.ofSeed 0) emptySite upload).1 = .receipt
      ⟨"data/uploads/1700000000-tags.json", "tags.json",
        "/site/data/uploads/1700000000-tags.json", 1⟩ :=
    eq_receipt_of_receipt? (by decide +kernel)
  have hread : ∀ room path, readTagFile (room + 1) path (encodeUtf8 "\x7b\"a\":1\x7d")
      = .ok [("a", .whole 1)] := by
    intro room path
    cbv
  have hnamed : payload "application/json"
      (encodeUtf8 "\x7b\"jsonPath\":\"data/uploads/1700000000-tags.json\"\x7d")
      = .ok [("jsonPath", .string "data/uploads/1700000000-tags.json")] :=
    payload_of_value (by decide +kernel) (by cbv)
  have hbrought : payload "application/json"
      (encodeUtf8 "\x7b\"tags\":\x7b\"a\":1\x7d\x7d")
      = .ok [("tags", .object [("a", .whole 1)])] :=
    payload_of_value (by decide +kernel) (by cbv)
  have hstores : upload.stores? emptySite.base
      = some (["site", "data", "uploads", "1700000000-tags.json"],
          encodeUtf8 "\x7b\"a\":1\x7d") := by decide +kernel
  have hunchanged : later.tree.read (.ofText "/site/data/uploads/1700000000-tags.json")
      = .ok (encodeUtf8 "\x7b\"a\":1\x7d") := by decide +kernel
  have halike : AskAlike [("jsonPath", .string "data/uploads/1700000000-tags.json")]
      [("tags", .object [("a", .whole 1)])] := ⟨by cbv, by cbv, by cbv⟩
  exact (render_receipt_iff isResolved_emptySite hreceipt hstores (hread _ _) (base_answer _)
    hunchanged ⟨hnamed, by cbv, by cbv⟩ ⟨hbrought, by cbv⟩ halike).2 (Or.inl (by decide +kernel))

/-- Tags that came under a name with another ending cannot be asked for by their receipt. -/
theorem receipt_of_text_refused :
    let upload := uploadOf 1700000000 "tags.txt" "\x7b\x7d"
    let later := (answer (Generator.ofSeed 0) emptySite upload).2
    (answer (Generator.ofSeed 0) emptySite upload).1.receipt? = some
        ⟨"data/uploads/1700000000-tags.txt", "tags.txt",
          "/site/data/uploads/1700000000-tags.txt", 0⟩
      ∧ ¬ SameCloud
        (answer (Generator.ofSeed 0) later (.render "application/json"
          (encodeUtf8 "\x7b\"jsonPath\":\"data/uploads/1700000000-tags.txt\"\x7d"))).1
        (answer (Generator.ofSeed 0) later (.render "application/json"
          (encodeUtf8 "\x7b\"tags\":\x7b\x7d\x7d"))).1 := by
  intro upload later
  refine ⟨by decide +kernel, fun hsame => ?_⟩
  have hrefused : (answer (Generator.ofSeed 0) later (.render "application/json"
      (encodeUtf8 "\x7b\"jsonPath\":\"data/uploads/1700000000-tags.txt\"\x7d"))).1.status
      = 400 := by decide +kernel
  have hshown : (answer (Generator.ofSeed 0) later (.render "application/json"
      (encodeUtf8 "\x7b\"tags\":\x7b\x7d\x7d"))).1.status = 200 := by decide +kernel
  have hstatus := hsame.status
  rw [hrefused, hshown] at hstatus
  exact absurd hstatus (by decide)

end TagCloud.Site
