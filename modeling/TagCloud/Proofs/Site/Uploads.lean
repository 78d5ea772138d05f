import TagCloud.Proofs.Site.Taken

/-!
# What becomes of uploaded files

From what one upload does it is seen how long an accepted file stays: until another upload comes
to its location with other bytes, and no longer. The location is made from the second and the safe
name of an upload, and nothing else tells two uploads apart, so an upload can replace what another
one has stored, and one that is refused takes it away. Where the locations differ, nothing is lost.
-/

namespace TagCloud.Site

open TagCloud.Text

variable {fresh : Generator} {tree tree' : File.Tree} {l x : File.Location} {bytes : List UInt8}
  {site : Site}

/-! ## What stays -/

theorem Taken.keeps {outcome : Except Trouble Nat} (h : Taken tree l bytes outcome tree') :
    tree.Keeps tree' := by
  cases h with
  | unwritten hgrow _ => exact hgrow.keeps
  | kept hgrow hfile _ _ => exact hgrow.keeps.trans (File.Tree.keeps_put hfile)
  | stranded hgrow hfile _ => exact hgrow.keeps.trans (File.Tree.keeps_put hfile)
  | dropped hgrow hfile _ =>
      refine (hgrow.keeps.trans (File.Tree.keeps_put hfile)).trans (File.Tree.keeps_erase ?_)
      simp [File.Tree.at?_put (File.Tree.ne_nil_of_at? hfile)]

/-- Elsewhere no file is made, lost or changed. -/
theorem Taken.file_iff_of_ne {outcome : Except Trouble Nat} {old : List UInt8}
    (h : Taken tree l bytes outcome tree') (hx : x ≠ l) :
    tree'.at? x = some (.file old) ↔ tree.at? x = some (.file old) := by
  cases h with
  | unwritten hgrow _ => exact hgrow.file_iff
  | kept hgrow hfile _ _ =>
      rw [File.Tree.at?_put (File.Tree.ne_nil_of_at? hfile), if_neg hx]
      exact hgrow.file_iff
  | stranded hgrow hfile _ =>
      rw [File.Tree.at?_put (File.Tree.ne_nil_of_at? hfile), if_neg hx]
      exact hgrow.file_iff
  | dropped hgrow hfile _ =>
      have hl := File.Tree.ne_nil_of_at? hfile
      rw [File.Tree.at?_erase hl, if_neg hx, File.Tree.at?_put hl, if_neg hx]
      exact hgrow.file_iff

/-- Where a tag file is, bytes that come to its location leave it exactly if they are its own. -/
theorem Taken.file_iff_of_holds {outcome : Except Trouble Nat} {old : List UInt8} {n : Nat}
    (h : Taken tree l bytes outcome tree') (hold : Holds tree l old)
    (hverdict : verdict l old = .ok n) :
    tree'.at? l = some (.file old) ↔ bytes = old := by
  have hl := File.Tree.ne_nil_of_at? (t := tree) (l := l) (by simp [hold.file])
  cases h with
  | unwritten _ hnothing => exact absurd hold (hnothing old)
  | kept _ _ _ _ => simp [File.Tree.at?_put hl]
  | stranded _ _ _ => simp [File.Tree.at?_put hl]
  | dropped _ _ hrefused =>
      rw [File.Tree.at?_erase hl, if_pos rfl]
      constructor
      · exact fun hnone => absurd hnone (by simp)
      · rintro rfl
        exact absurd (hverdict.symm.trans hrefused) (by simp)

/-- Every request leaves the directory of the project where it is. -/
theorem base_answer (request : Request) : (answer fresh site request).2.base = site.base := by
  cases request with
  | index directive => rfl
  | render header body => rfl
  | upload now boundary body => rfl

theorem isResolved_answer (fresh : Generator) (hbase : IsResolved site.base)
    (request : Request) : IsResolved (answer fresh site request).2.base := by
  rwa [base_answer]

theorem base_serve (requests : List Request) : (serve fresh site requests).2.base = site.base := by
  induction requests generalizing site with
  | nil => rfl
  | cons request requests ih =>
      calc (serve fresh site (request :: requests)).2.base
          = (serve fresh (answer fresh site request).2 requests).2.base := rfl
        _ = (answer fresh site request).2.base := ih
        _ = site.base := base_answer request

theorem keeps_answer (fresh : Generator) (hbase : IsResolved site.base) (request : Request) :
    site.tree.Keeps (answer fresh site request).2.tree := by
  cases hstores : request.stores? site.base with
  | none =>
      rw [(answer_of_stores_none hstores).1]
      exact File.Tree.Keeps.refl _
  | some stored =>
      obtain ⟨l, bytes⟩ := stored
      obtain ⟨outcome, tree', htaken, hsite, -⟩ := answer_of_stores fresh hbase hstores
      rw [hsite]
      exact htaken.keeps

theorem keeps_serve (fresh : Generator) (hbase : IsResolved site.base) (requests : List Request) :
    site.tree.Keeps (serve fresh site requests).2.tree := by
  induction requests generalizing site with
  | nil => exact File.Tree.Keeps.refl _
  | cons request requests ih =>
      exact (keeps_answer fresh hbase request).trans (ih (isResolved_answer fresh hbase request))

/-- A tag file outlasts a request unless the request brings other bytes for its location. -/
theorem file_answer_iff (fresh : Generator) {n : Nat} (hbase : IsResolved site.base)
    (hold : Holds site.tree l bytes) (hverdict : verdict l bytes = .ok n) (request : Request) :
    (answer fresh site request).2.tree.at? l = some (.file bytes)
      ↔ ∀ other, request.stores? site.base = some (l, other) → other = bytes := by
  cases hstores : request.stores? site.base with
  | none => simp [(answer_of_stores_none hstores).1, hold.file]
  | some stored =>
      obtain ⟨x, other⟩ := stored
      obtain ⟨outcome, tree', htaken, hsite, -⟩ := answer_of_stores fresh hbase hstores
      rw [hsite]
      by_cases hx : l = x
      · subst hx
        rw [htaken.file_iff_of_holds hold hverdict]
        simp
      · rw [htaken.file_iff_of_ne hx]
        simp [hold.file, Ne.symm hx]

/-- And it outlasts a run exactly if no request of the run does that. -/
theorem file_serve_iff (fresh : Generator) {n : Nat} (hbase : IsResolved site.base)
    (hold : Holds site.tree l bytes) (hverdict : verdict l bytes = .ok n)
    (requests : List Request) :
    (∀ soon, soon <+: requests → (serve fresh site soon).2.tree.at? l = some (.file bytes))
      ↔ ∀ later ∈ requests, ∀ other,
          later.stores? site.base = some (l, other) → other = bytes := by
  induction requests generalizing site with
  | nil =>
      constructor
      · exact fun _ later hlater => absurd hlater (by simp)
      · intro _ soon hsoon
        rw [List.prefix_nil.1 hsoon]
        exact hold.file
  | cons request requests ih =>
      have hstep := file_answer_iff fresh hbase hold hverdict request
      have hleads := File.Tree.locate_of_keeps (keeps_answer fresh hbase request)
        hold.leads
      have hnext := isResolved_answer fresh hbase request
      constructor
      · intro hstays later hlater
        have hfirst := hstays [request] (List.prefix_append [request] requests)
        rcases List.mem_cons.1 hlater with rfl | hlater
        · exact hstep.1 hfirst
        · have hrest := (ih hnext ⟨hleads, hfirst⟩).1 fun soon hsoon =>
            hstays (request :: soon) (List.cons_prefix_cons.2 ⟨rfl, hsoon⟩)
          rw [base_answer] at hrest
          exact hrest later hlater
      · intro hclear soon hsoon
        have hfirst := hstep.2 (hclear request List.mem_cons_self)
        have hrest := (ih hnext ⟨hleads, hfirst⟩).2 fun later hlater => by
          rw [base_answer]
          exact hclear later (List.mem_cons_of_mem request hlater)
        cases soon with
        | nil => exact hold.file
        | cons first soon =>
            obtain ⟨rfl, hbehind⟩ := List.cons_prefix_cons.1 hsoon
            exact hrest soon hbehind

/-! ## Uploads in a run -/

/-- The same files are in two trees. -/
def SameFiles (tree tree' : File.Tree) : Prop :=
  ∀ x bytes, tree'.at? x = some (.file bytes) ↔ tree.at? x = some (.file bytes)

/-- Right after a receipt the file is there. -/
theorem holds_of_receipt {request : Request} {r : Receipt} (hbase : IsResolved site.base)
    (h : (answer fresh site request).1 = .receipt r) :
    ∃ l bytes n, request.stores? site.base = some (l, bytes) ∧ r.stored = (absolute l).text
      ∧ Holds (answer fresh site request).2.tree l bytes ∧ verdict l bytes = .ok n := by
  cases hstores : request.stores? site.base with
  | none => exact absurd h ((answer_of_stores_none hstores).2 r)
  | some stored =>
      obtain ⟨l, bytes⟩ := stored
      obtain ⟨outcome, tree', htaken, hsite, htells⟩ :=
        answer_of_stores fresh hbase hstores
      rw [h] at htells
      rw [hsite]
      cases htaken with
      | unwritten _ _ => exact absurd htells (by simp [Tells])
      | stranded _ _ _ => exact absurd htells (by simp [Tells])
      | dropped _ _ _ => exact absurd htells (by simp [Tells])
      | kept hgrow hfile hleads hverdict =>
          obtain ⟨r', hr, hstored⟩ := htells
          obtain rfl := Answer.receipt.inj hr
          refine ⟨l, bytes, _, rfl, hstored, ⟨?_, ?_⟩, hverdict⟩
          · exact File.Tree.locate_of_keeps (File.Tree.keeps_put hfile) hleads
          · rw [File.Tree.at?_put (File.Tree.ne_nil_of_at? hfile), if_pos rfl]

/-- Where bytes are refused, nothing is left. -/
theorem Taken.eq_none_of_refused {outcome : Except Trouble Nat} {reply : Answer}
    (h : Taken tree l bytes outcome tree') (htells : Tells l reply outcome)
    (hstatus : reply.status = 400) : tree'.at? l = none := by
  cases h with
  | dropped hgrow hfile _ => rw [File.Tree.at?_erase (File.Tree.ne_nil_of_at? hfile), if_pos rfl]
  | kept _ _ _ _ =>
      obtain ⟨r, rfl, -⟩ := htells
      exact absurd hstatus (by simp [Answer.status])
  | unwritten _ _ =>
      rw [Tells] at htells
      exact absurd hstatus (by simp [htells, Answer.status])
  | stranded _ _ _ =>
      rw [Tells] at htells
      exact absurd hstatus (by simp [htells, Answer.status])

/-- A request that is refused leaves the files as they were exactly if it brings no file or there
was none at the location of the file it brings. -/
theorem sameFiles_iff_of_refused {request : Request} (hbase : IsResolved site.base)
    (h : (answer fresh site request).1.status = 400) :
    SameFiles site.tree (answer fresh site request).2.tree
      ↔ ∀ l bytes, request.stores? site.base = some (l, bytes) →
          ∀ old, site.tree.at? l ≠ some (.file old) := by
  cases hstores : request.stores? site.base with
  | none =>
      rw [(answer_of_stores_none hstores).1]
      simp [SameFiles]
  | some stored =>
      obtain ⟨l, bytes⟩ := stored
      obtain ⟨outcome, tree', htaken, hsite, htells⟩ :=
        answer_of_stores fresh hbase hstores
      have helsewhere : ∀ x old, x ≠ l →
          (tree'.at? x = some (.file old) ↔ site.tree.at? x = some (.file old)) :=
        fun x old hx => htaken.file_iff_of_ne hx
      have hgone : tree'.at? l = none := htaken.eq_none_of_refused htells h
      rw [hsite]
      constructor
      · intro hsame x other hx old hold
        obtain ⟨rfl, rfl⟩ := Prod.mk.inj (Option.some.inj hx)
        exact absurd (hgone.symm.trans ((hsame _ old).2 hold)) (by simp)
      · intro hnothing x old
        by_cases hx : x = l
        · have hnone := hnothing l bytes rfl old
          rw [hx, hgone]
          simp [hnone]
        · exact helsewhere x old hx

/-- A request and what comes after it lose nothing: if it gets a receipt, the file that the receipt
names has the bytes that were uploaded, now and after each later request; if it is refused, all
files are as they were. -/
structure LosesNone (fresh : Generator) (site : Site) (request : Request)
    (after : List Request) : Prop where
  accepted : ∀ r, (answer fresh site request).1 = .receipt r →
    ∃ l bytes, request.stores? site.base = some (l, bytes)
      ∧ ∀ soon, soon <+: after →
          (serve fresh (answer fresh site request).2 soon).2.tree.read (.ofText r.stored)
            = .ok bytes
  refused : (answer fresh site request).1.status = 400 →
    SameFiles site.tree (answer fresh site request).2.tree

/-- A request meets no other file: if it gets a receipt, whatever comes to its location later is the
same file again; if it is refused, there was no file at its location. -/
structure MeetsNone (fresh : Generator) (site : Site) (request : Request)
    (after : List Request) : Prop where
  accepted : ∀ r, (answer fresh site request).1 = .receipt r →
    ∀ l bytes, request.stores? site.base = some (l, bytes) →
      ∀ later ∈ after, ∀ other, later.stores? site.base = some (l, other) → other = bytes
  refused : (answer fresh site request).1.status = 400 →
    ∀ l bytes, request.stores? site.base = some (l, bytes) →
      ∀ old, site.tree.at? l ≠ some (.file old)

theorem losesNone_iff (hbase : IsResolved site.base) (request : Request) (after : List Request) :
    LosesNone fresh site request after ↔ MeetsNone fresh site request after := by
  have hnext := isResolved_answer fresh hbase request
  -- behind a receipt, both sides speak of one file and of the same requests
  have hreceipt : ∀ r l bytes, (answer fresh site request).1 = .receipt r →
      request.stores? site.base = some (l, bytes) →
      ((∀ soon, soon <+: after →
          (serve fresh (answer fresh site request).2 soon).2.tree.read (.ofText r.stored)
            = .ok bytes)
        ↔ ∀ later ∈ after, ∀ other, later.stores? site.base = some (l, other) →
            other = bytes) := by
    intro r l bytes hr hstores
    obtain ⟨x, bytes', n, hstored, hpath, hholds, hverdict⟩ := holds_of_receipt hbase hr
    obtain ⟨rfl, rfl⟩ := Prod.mk.inj (Option.some.inj (hstores.symm.trans hstored))
    have hfile := file_serve_iff fresh hnext hholds hverdict after
    rw [base_answer] at hfile
    rw [hpath, ← hfile]
    refine forall_congr' fun soon => forall_congr' fun _ => ?_
    exact read_stored_iff (isResolved_of_stores hbase hstores)
      (File.Tree.locate_of_keeps (keeps_serve fresh hnext soon) hholds.leads)
  constructor
  · intro h
    refine ⟨?_, fun hstatus => (sameFiles_iff_of_refused hbase hstatus).1 (h.refused hstatus)⟩
    intro r hr l bytes hstores
    obtain ⟨x, bytes', hstored, hstays⟩ := h.accepted r hr
    obtain ⟨rfl, rfl⟩ := Prod.mk.inj (Option.some.inj (hstores.symm.trans hstored))
    exact (hreceipt r l bytes hr hstores).1 hstays
  · intro h
    refine ⟨?_, fun hstatus => (sameFiles_iff_of_refused hbase hstatus).2 (h.refused hstatus)⟩
    intro r hr
    obtain ⟨l, bytes, n, hstores, -⟩ := holds_of_receipt hbase hr
    exact ⟨l, bytes, hstores, (hreceipt r l bytes hr hstores).2 (h.accepted r hr l bytes hstores)⟩

/-- A run of requests loses no upload exactly if no upload of the run meets another file. -/
theorem run_losesNone_iff (hbase : IsResolved site.base) (requests : List Request) :
    (∀ before request after, requests = before ++ request :: after →
        LosesNone fresh (serve fresh site before).2 request after)
      ↔ ∀ before request after, requests = before ++ request :: after →
        MeetsNone fresh (serve fresh site before).2 request after := by
  have hresolved : ∀ before, IsResolved (serve fresh site before).2.base := by
    intro before
    rwa [base_serve]
  constructor
  · intro h before request after hrun
    exact (losesNone_iff (hresolved before) request after).1 (h before request after hrun)
  · intro h before request after hrun
    exact (losesNone_iff (hresolved before) request after).2 (h before request after hrun)

/-! ## Uploads apart from each other -/

/-- Requests that store their files at different locations. -/
def Apart (base : File.Location) (request request' : Request) : Prop :=
  ∀ l bytes bytes', request.stores? base = some (l, bytes) →
    request'.stores? base ≠ some (l, bytes')

/-- Where no request of a run stores a file, none is made, lost or changed. -/
theorem file_serve_of_untouched (hbase : IsResolved site.base) {requests : List Request}
    (h : ∀ request ∈ requests, ∀ bytes, request.stores? site.base ≠ some (l, bytes))
    (old : List UInt8) :
    (serve fresh site requests).2.tree.at? l = some (.file old)
      ↔ site.tree.at? l = some (.file old) := by
  induction requests generalizing site with
  | nil => exact Iff.rfl
  | cons request requests ih =>
      have hnext := isResolved_answer fresh hbase request
      have hrest := ih hnext fun later hlater => by
        rw [base_answer]
        exact h later (List.mem_cons_of_mem request hlater)
      refine hrest.trans ?_
      cases hstores : request.stores? site.base with
      | none => rw [(answer_of_stores_none hstores).1]
      | some stored =>
          obtain ⟨x, bytes⟩ := stored
          obtain ⟨outcome, tree', htaken, hsite, -⟩ :=
            answer_of_stores fresh hbase hstores
          rw [hsite]
          refine htaken.file_iff_of_ne ?_
          rintro rfl
          exact h request List.mem_cons_self bytes hstores

/-- Uploads in different seconds or of different safe names do not meet, in a directory that has no
files at their locations to begin with. -/
theorem meetsNone_of_apart (hbase : IsResolved site.base) {requests : List Request}
    (hapart : requests.Pairwise (Apart site.base))
    (hstart : ∀ request ∈ requests, ∀ l bytes, request.stores? site.base = some (l, bytes) →
      ∀ old, site.tree.at? l ≠ some (.file old))
    (before : List Request) (request : Request) (after : List Request)
    (hrun : requests = before ++ request :: after) :
    MeetsNone fresh (serve fresh site before).2 request after := by
  rw [hrun, List.pairwise_append, List.pairwise_cons] at hapart
  obtain ⟨-, ⟨hafter, -⟩, hbefore⟩ := hapart
  constructor
  · intro r _ l bytes hstores later hlater other hother
    rw [base_serve] at hstores hother
    exact absurd hother (hafter later hlater l bytes other hstores)
  · intro _ l bytes hstores old hold
    rw [base_serve] at hstores
    have huntouched : ∀ earlier ∈ before, ∀ bytes', earlier.stores? site.base ≠ some (l, bytes') :=
      fun earlier hearlier bytes' h =>
        hbefore earlier hearlier request List.mem_cons_self l bytes' bytes h hstores
    have hthere := (file_serve_of_untouched hbase huntouched old).1 hold
    exact hstart request (by simp [hrun]) l bytes hstores old hthere

/-! ## Two uploads in one second -/

/-- A project without files. -/
def emptySite : Site :=
  ⟨["site"], ⟨[(["site"], .directory)], []⟩⟩

theorem isResolved_emptySite : IsResolved emptySite.base := by
  intro name hname
  obtain rfl := List.mem_singleton.1 hname
  exact ⟨⟨by decide, by decide, by decide⟩, by decide⟩

/-- A request that uploads a file at a given second. -/
def uploadOf (now : Int) (name contents : String) : Request :=
  .upload now [98] (encodeUtf8 ("--b\r\nContent-Disposition: form-data; name=\"file\"; filename=\""
    ++ name ++ "\"\r\n\r\n" ++ contents ++ "\r\n--b--\r\n"))

theorem run_losesNone_iff_apart :
    IsResolved emptySite.base
      ∧ ∀ before request after,
        [uploadOf 1700000000 "tags.json" "\x7b\"a\":1\x7d", uploadOf 1700000000 "list.json" "[]"]
            = before ++ request :: after →
          LosesNone (Generator.ofSeed 0) (serve (Generator.ofSeed 0) emptySite before).2 request
            after := by
  have hbase := isResolved_emptySite
  have htags : (uploadOf 1700000000 "tags.json" "\x7b\"a\":1\x7d").stores? emptySite.base
      = some (["site", "data", "uploads", "1700000000-tags.json"],
          encodeUtf8 "\x7b\"a\":1\x7d") := by decide +kernel
  have hlist : (uploadOf 1700000000 "list.json" "[]").stores? emptySite.base
      = some (["site", "data", "uploads", "1700000000-list.json"], encodeUtf8 "[]") := by
    decide +kernel
  refine ⟨hbase, (run_losesNone_iff hbase _).2 (meetsNone_of_apart hbase ?_ ?_)⟩
  · refine List.pairwise_pair.2 fun l bytes bytes' h h' => ?_
    have hl := congrArg (Option.map Prod.fst) (htags.symm.trans h)
    have hl' := congrArg (Option.map Prod.fst) (hlist.symm.trans h')
    exact absurd (hl.trans hl'.symm) (by decide)
  · intro request hrequest l bytes hstores old hold
    simp only [List.mem_cons, List.not_mem_nil, or_false] at hrequest
    rcases hrequest with rfl | rfl
    · obtain ⟨rfl, -⟩ := Prod.mk.inj (Option.some.inj (htags.symm.trans hstores))
      have hnone : emptySite.tree.at? ["site", "data", "uploads", "1700000000-tags.json"]
          = none := by decide +kernel
      exact absurd (hnone.symm.trans hold) (by simp)
    · obtain ⟨rfl, -⟩ := Prod.mk.inj (Option.some.inj (hlist.symm.trans hstores))
      have hnone : emptySite.tree.at? ["site", "data", "uploads", "1700000000-list.json"]
          = none := by decide +kernel
      exact absurd (hnone.symm.trans hold) (by simp)

/-- A file that is refused takes an accepted one with it that came in the same second under the same
name. -/
theorem refused_upload_loses_accepted :
    ¬ ∀ before request after,
        [uploadOf 1700000000 "tags.json" "\x7b\"a\":1\x7d",
            uploadOf 1700000000 "tags.json" "\x7b\"a\":true\x7d"] = before ++ request :: after →
          LosesNone (Generator.ofSeed 0) (serve (Generator.ofSeed 0) emptySite before).2 request
            after := by
  intro h
  have hsame := (h [uploadOf 1700000000 "tags.json" "\x7b\"a\":1\x7d"]
    (uploadOf 1700000000 "tags.json" "\x7b\"a\":true\x7d") [] rfl).refused (by decide +kernel)
  have hgone := (hsame ["site", "data", "uploads", "1700000000-tags.json"]
    (encodeUtf8 "\x7b\"a\":1\x7d")).2 (by decide +kernel)
  exact absurd hgone (by decide +kernel)

end TagCloud.Site
