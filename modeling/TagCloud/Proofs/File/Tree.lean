import TagCloud.File.Tree
import TagCloud.Proofs.Dictionary
import TagCloud.Proofs.Outcome

/-!
# What is done to a tree of files

Each operation on a tree is described by what is then at each location. Writing changes one location
that is no directory, and making directories adds directories where there was nothing; in both cases
every directory stays one, and that is all a path needs to lead where it led before.
-/

namespace TagCloud.File.Tree

variable {t t' : Tree} {p : Path} {l x : Location} {entry : Entry} {bytes : List UInt8}

/-! ## Single locations -/

theorem at?_nil (t : Tree) : t.at? [] = some .directory := by
  rw [at?, if_pos rfl]

theorem at?_put (hl : l ≠ []) : (t.put l entry).at? x = if x = l then some entry else t.at? x := by
  by_cases hx : x = []
  · rw [hx, at?_nil, at?_nil, if_neg (Ne.symm hl)]
  · rw [at?, at?, if_neg hx, if_neg hx, put, Dictionary.get?_put]
    by_cases h : l = x
    · rw [if_pos h, if_pos h.symm]
    · rw [if_neg h, if_neg (Ne.symm h)]

theorem at?_erase (hl : l ≠ []) : (t.erase l).at? x = if x = l then none else t.at? x := by
  by_cases hx : x = []
  · rw [hx, at?_nil, at?_nil, if_neg (Ne.symm hl)]
  · rw [at?, at?, if_neg hx, if_neg hx, erase, Dictionary.get?_filter_ne]

theorem ne_nil_of_at? (h : t.at? l ≠ some .directory) : l ≠ [] := by
  rintro rfl
  exact h (at?_nil t)

/-! ## Where paths lead -/

/-- All directories of a tree are directories of another one, seen from the same place. -/
structure Keeps (t t' : Tree) : Prop where
  here : t'.here = t.here
  directories : ∀ x, t.at? x = some .directory → t'.at? x = some .directory

theorem Keeps.refl (t : Tree) : t.Keeps t :=
  ⟨rfl, fun _ h => h⟩

theorem Keeps.trans {t'' : Tree} (h : t.Keeps t') (h' : t'.Keeps t'') : t.Keeps t'' :=
  ⟨h'.here.trans h.here, fun x hx => h'.directories x (h.directories x hx)⟩

theorem keeps_put (h : t.at? l ≠ some .directory) : t.Keeps (t.put l entry) where
  here := rfl
  directories := by
    intro x hx
    rw [at?_put (ne_nil_of_at? h), if_neg, hx]
    rintro rfl
    exact h hx

theorem keeps_erase (h : t.at? l ≠ some .directory) : t.Keeps (t.erase l) where
  here := rfl
  directories := by
    intro x hx
    rw [at?_erase (ne_nil_of_at? h), if_neg, hx]
    rintro rfl
    exact h hx

theorem step_of_keeps (h : t.Keeps t') {name : String} (hstep : t.step x name = .ok l) :
    t'.step x name = .ok l := by
  rw [step] at hstep ⊢
  split at hstep
  · exact absurd hstep (by simp)
  · exact absurd hstep (by simp)
  · next hx => rw [h.directories x hx]; exact hstep

theorem foldlM_step_of_keeps (h : t.Keeps t') {names : List String}
    (hsteps : names.foldlM t.step x = .ok l) : names.foldlM t'.step x = .ok l := by
  induction names generalizing x with
  | nil => exact hsteps
  | cons name names ih =>
      rw [List.foldlM_cons, bind_eq_ok] at hsteps ⊢
      obtain ⟨y, hy, hrest⟩ := hsteps
      exact ⟨y, step_of_keeps h hy, ih hrest⟩

/-- A path leads to the same location as long as directories stay directories. -/
theorem locate_of_keeps (h : t.Keeps t') (hl : t.locate p = .ok l) : t'.locate p = .ok l := by
  rw [locate] at hl ⊢
  split at hl
  · exact absurd hl (by simp)
  · next hnull =>
      rw [if_neg hnull]
      split at hl
      · exact absurd hl (by simp)
      · next hlong =>
          rw [if_neg hlong, h.here]
          exact foldlM_step_of_keeps h hl

/-! ## Paths without dots -/

theorem isDirectory_iff :
    t.isDirectory p = true ↔ ∃ l, t.locate p = .ok l ∧ t.at? l = some .directory := by
  unfold isDirectory
  cases t.locate p with
  | error fault => simp
  | ok l => simp

theorem foldlM_step_of_plain {names : List String} (h : ".." ∉ names)
    (hsteps : names.foldlM t.step x = .ok l) : l = x ++ names := by
  induction names generalizing x with
  | nil =>
      rw [List.append_nil]
      exact (Except.ok.inj hsteps).symm
  | cons name names ih =>
      rw [List.mem_cons, not_or] at h
      rw [List.foldlM_cons, bind_eq_ok] at hsteps
      obtain ⟨y, hy, hrest⟩ := hsteps
      have hstep : y = x ++ [name] := by
        rw [step] at hy
        split at hy
        · exact absurd hy (by simp)
        · exact absurd hy (by simp)
        · rw [if_neg (Ne.symm h.1)] at hy
          split at hy
          · exact absurd hy (by simp)
          · exact (Except.ok.inj hy).symm
      rw [ih h.2 hrest, hstep, List.append_assoc]
      rfl

/-- A path without dots leads where its names say from where it begins, if it leads anywhere. -/
theorem eq_append_of_locate (h : ".." ∉ p.names) (hl : t.locate p = .ok l) :
    l = (if p.root = .here then t.here else []) ++ p.names := by
  rw [locate] at hl
  split at hl
  · exact absurd hl (by simp)
  · split at hl
    · exact absurd hl (by simp)
    · exact foldlM_step_of_plain h hl

theorem locate_of_plain (h : ".." ∉ x) (hl : t.locate ⟨.top, x⟩ = .ok l) : l = x :=
  eq_append_of_locate (p := ⟨.top, x⟩) h hl

theorem exists_text_append (x : Location) (name : String) :
    ∃ rest, Path.text ⟨.top, x ++ [name]⟩ = Path.text ⟨.top, x⟩ ++ rest := by
  cases x with
  | nil => exact ⟨name, rfl⟩
  | cons first x =>
      refine ⟨"/" ++ name, ?_⟩
      have hjoin : String.intercalate "/" (first :: x ++ [name])
          = String.intercalate "/" (first :: x) ++ ("/" ++ name) := by
        rw [String.intercalate_append_of_ne_nil (by simp) (by simp), String.intercalate_singleton,
          String.append_assoc]
      have htext : ∀ y : Location, Path.text ⟨.top, y⟩ = "/" ++ String.intercalate "/" y :=
        fun _ => rfl
      rw [htext, htext, hjoin, String.append_assoc]

/-- What a path leads to is in a directory, to which its names but the last one lead. -/
theorem isDirectory_of_locate {name : String} (hl : t.locate ⟨.top, x ++ [name]⟩ = .ok l) :
    t.isDirectory ⟨.top, x⟩ = true := by
  obtain ⟨rest, hrest⟩ := exists_text_append x name
  rw [locate] at hl
  split at hl
  · exact absurd hl (by simp)
  · next hnull =>
      split at hl
      · exact absurd hl (by simp)
      · next hlong =>
          have hwhole : ¬ (Path.text ⟨.top, x⟩).toList.contains '\x00' = true := by
            intro hmem
            refine hnull ?_
            rw [hrest, String.toList_append]
            simp only [List.contains_iff_mem, List.mem_append] at hmem ⊢
            exact Or.inl hmem
          have hshort : ¬ pathLimit < (Path.text ⟨.top, x⟩).utf8ByteSize := by
            rw [hrest, String.utf8ByteSize_append] at hlong
            omega
          simp only [List.foldlM_append, bind_eq_ok] at hl
          obtain ⟨y, hy, hlast⟩ := hl
          have hlocate : t.locate ⟨.top, x⟩ = .ok y := by
            rw [locate, if_neg hwhole, if_neg hshort]
            exact hy
          refine isDirectory_iff.2 ⟨y, hlocate, ?_⟩
          rw [List.foldlM_cons, bind_eq_ok] at hlast
          obtain ⟨z, hz, -⟩ := hlast
          rw [step] at hz
          split at hz
          · exact absurd hz (by simp)
          · exact absurd hz (by simp)
          · next hat => exact hat

/-! ## Reading and writing -/

theorem read_eq_ok :
    t.read p = .ok bytes ↔ ∃ l, t.locate p = .ok l ∧ t.at? l = some (.file bytes) := by
  unfold read
  cases t.locate p with
  | error fault => simp
  | ok l =>
      cases hat : t.at? l with
      | none => simp [hat]
      | some entry =>
          cases entry with
          | directory => simp [hat]
          | file bytes' => simp [hat]

theorem write_eq_ok :
    t.write p bytes = .ok t'
      ↔ ∃ l, t.locate p = .ok l ∧ t.at? l ≠ some .directory ∧ t.put l (.file bytes) = t' := by
  unfold write
  cases t.locate p with
  | error fault => simp
  | ok l =>
      cases hat : t.at? l with
      | none => simp [hat]
      | some entry =>
          cases entry with
          | directory => simp [hat]
          | file bytes' => simp [hat]

/-- What has been written is read again. -/
theorem read_of_write (h : t.write p bytes = .ok t') : t'.read p = .ok bytes := by
  obtain ⟨l, hl, hfile, rfl⟩ := write_eq_ok.1 h
  refine read_eq_ok.2 ⟨l, locate_of_keeps (keeps_put hfile) hl, ?_⟩
  rw [at?_put (ne_nil_of_at? hfile), if_pos rfl]

theorem hasEntry_eq_ok :
    t.hasEntry p = .ok true ↔ ∃ l, t.locate p = .ok l ∧ (t.at? l).isSome = true := by
  unfold hasEntry
  cases t.locate p with
  | ok l => simp
  | error fault => cases fault <;> simp

theorem hasEntry_of_read (h : t.read p = .ok bytes) : t.hasEntry p = .ok true := by
  obtain ⟨l, hl, hat⟩ := read_eq_ok.1 h
  exact hasEntry_eq_ok.2 ⟨l, hl, by rw [hat]; rfl⟩

theorem hasEntry_eq_error :
    (∃ e, t.hasEntry p = .error e) ↔ t.locate p = .error .nameTooLong := by
  unfold hasEntry
  cases t.locate p with
  | ok l => simp
  | error fault => cases fault <;> simp

/-- What is there can be read unless it is a directory. -/
theorem read_eq_error_of_hasEntry (h : t.hasEntry p = .ok true) :
    (∃ e, t.read p = .error e) ↔ ∃ l, t.locate p = .ok l ∧ t.at? l = some .directory := by
  obtain ⟨l, hl, hat⟩ := hasEntry_eq_ok.1 h
  unfold read
  rw [hl]
  cases hentry : t.at? l with
  | none => simp [hentry] at hat
  | some entry =>
      cases entry with
      | directory => simp [hentry]
      | file bytes => simp [hentry]

/-- What is looked for before it is opened cannot be opened if its path is too long or leads to a
directory. -/
theorem unopened_iff :
    ((∃ e, t.hasEntry p = .error e) ∨ t.hasEntry p = .ok true ∧ ∃ e, t.read p = .error e)
      ↔ t.locate p = .error .nameTooLong
        ∨ ∃ l, t.locate p = .ok l ∧ t.at? l = some .directory := by
  rw [hasEntry_eq_error]
  refine or_congr_right ⟨?_, ?_⟩
  · rintro ⟨hthere, herror⟩
    exact (read_eq_error_of_hasEntry hthere).1 herror
  · rintro ⟨l, hl, hat⟩
    have hthere : t.hasEntry p = .ok true := hasEntry_eq_ok.2 ⟨l, hl, by rw [hat]; rfl⟩
    exact ⟨hthere, (read_eq_error_of_hasEntry hthere).2 ⟨l, hl, hat⟩⟩

/-! ## Finding what is there -/

/-- The way to a location leads through directories. -/
def Way (t : Tree) (l : Location) : Prop :=
  ∀ x, x <+: l → x ≠ l → t.at? x = some .directory

/-- Something is at a location, and the way to it leads through directories. -/
structure Has (t : Tree) (l : Location) : Prop where
  there : (t.at? l).isSome = true
  way : t.Way l

/-- A location that cannot be looked up: its path is too long, or a name in it is that a directory
on the way is asked for. -/
inductive TooLong (t : Tree) (l : Location) : Prop
  | path (h : pathLimit < (Path.text ⟨.top, l⟩).utf8ByteSize) : TooLong t l
  | name {x : Location} {name : String} (hon : x ++ [name] <+: l) (hway : t.Way (x ++ [name]))
      (h : nameLimit < name.utf8ByteSize) : TooLong t l

theorem way_nil (t : Tree) : t.Way [] :=
  fun _ hx hne => absurd (List.prefix_nil.1 hx) hne

theorem Way.of_prefix (h : t.Way l) (hx : x <+: l) : t.Way x := by
  intro y hy hne
  refine h y (hy.trans hx) ?_
  rintro rfl
  exact hne (hy.eq_of_length_le hx.length_le)

theorem way_concat {name : String} :
    t.Way (l ++ [name]) ↔ t.Way l ∧ t.at? l = some .directory := by
  constructor
  · intro h
    exact ⟨h.of_prefix (List.prefix_append l [name]), h l (List.prefix_append l [name]) (by simp)⟩
  · rintro ⟨hway, hat⟩ x hx hne
    rcases List.prefix_concat_iff.1 hx with rfl | hx
    · exact absurd rfl hne
    · by_cases hlast : x = l
      · rw [hlast, hat]
      · exact hway x hx hlast

theorem step_eq_ok {name : String} (hdots : name ≠ "..") :
    t.step l name = .ok x
      ↔ t.at? l = some .directory ∧ name.utf8ByteSize ≤ nameLimit ∧ x = l ++ [name] := by
  unfold step
  split
  · next hat => simp [hat]
  · next hat => simp [hat]
  · next hat =>
      rw [if_neg hdots]
      split
      · next hlong => simp [Nat.not_le.2 hlong]
      · next hshort => simp [hat, Nat.le_of_not_lt hshort, eq_comm]

theorem step_eq_nameTooLong {name : String} (hdots : name ≠ "..") :
    t.step l name = .error .nameTooLong
      ↔ t.at? l = some .directory ∧ nameLimit < name.utf8ByteSize := by
  unfold step
  split
  · next hat => simp [hat]
  · next hat => simp [hat]
  · next hat =>
      rw [if_neg hdots]
      split
      · next hlong => simp [hat, hlong]
      · next hshort => simp [hshort]

theorem foldlM_step_eq_ok (hdots : ".." ∉ l) :
    l.foldlM t.step [] = .ok x
      ↔ x = l ∧ t.Way l ∧ ∀ name ∈ l, name.utf8ByteSize ≤ nameLimit := by
  induction l using List.reverseRecOn generalizing x with
  | nil =>
      simp only [List.foldlM_nil, pure_eq_ok, way_nil, true_and]
      exact ⟨fun h => ⟨h.symm, fun _ hmem => absurd hmem (by simp)⟩, fun h => h.1.symm⟩
  | append_singleton l name ih =>
      simp only [List.mem_append, List.mem_singleton, not_or] at hdots
      simp only [List.foldlM_append, List.foldlM_cons, List.foldlM_nil, bind_eq_ok, pure_eq_ok,
        exists_eq_right, ih hdots.1, step_eq_ok (Ne.symm hdots.2), way_concat, List.mem_append,
        List.mem_singleton]
      constructor
      · rintro ⟨y, ⟨rfl, hway, hshort⟩, hat, hname, rfl⟩
        refine ⟨rfl, ⟨hway, hat⟩, ?_⟩
        rintro n (hn | rfl)
        · exact hshort n hn
        · exact hname
      · rintro ⟨rfl, ⟨hway, hat⟩, hshort⟩
        exact ⟨l, ⟨rfl, hway, fun n hn => hshort n (Or.inl hn)⟩, hat, hshort name (Or.inr rfl), rfl⟩

/-- Names are looked at one by one, so that a name behind something that is no directory is never
too long. -/
theorem foldlM_step_eq_nameTooLong (hdots : ".." ∉ l) :
    l.foldlM t.step [] = .error .nameTooLong
      ↔ ∃ x name, x ++ [name] <+: l ∧ t.Way (x ++ [name]) ∧ nameLimit < name.utf8ByteSize := by
  induction l using List.reverseRecOn with
  | nil => simp [pure, Except.pure]
  | append_singleton l name ih =>
      simp only [List.mem_append, List.mem_singleton, not_or] at hdots
      have hsplit : (l ++ [name]).foldlM t.step [] = .error .nameTooLong
          ↔ l.foldlM t.step [] = .error .nameTooLong
            ∨ l.foldlM t.step [] = .ok l ∧ t.step l name = .error .nameTooLong := by
        simp only [List.foldlM_append, List.foldlM_cons, List.foldlM_nil]
        cases hfold : l.foldlM t.step [] with
        | error e => simp [Bind.bind, Except.bind]
        | ok x =>
            obtain rfl := ((foldlM_step_eq_ok hdots.1).1 hfold).1
            cases hstep : t.step x name <;> simp [Bind.bind, Except.bind, pure, Except.pure, hstep]
      rw [hsplit, ih hdots.1, foldlM_step_eq_ok hdots.1, step_eq_nameTooLong (Ne.symm hdots.2)]
      constructor
      · rintro (⟨x, n, hon, hway, hlong⟩ | ⟨⟨-, hway, -⟩, hat, hlong⟩)
        · exact ⟨x, n, hon.trans (List.prefix_append l [name]), hway, hlong⟩
        · exact ⟨l, name, List.prefix_rfl, way_concat.2 ⟨hway, hat⟩, hlong⟩
      · rintro ⟨x, n, hon, hway, hlong⟩
        rcases List.prefix_concat_iff.1 hon with heq | hon
        · obtain ⟨rfl, hlast⟩ := List.append_inj' heq rfl
          obtain rfl := List.singleton_inj.1 hlast
          obtain ⟨hbefore, hat⟩ := way_concat.1 hway
          by_cases hshort : ∀ m ∈ x, m.utf8ByteSize ≤ nameLimit
          · exact Or.inr ⟨⟨rfl, hbefore, hshort⟩, hat, hlong⟩
          · -- The first name that is too long is found before the last one is come to.
            simp only [not_forall, Nat.not_le] at hshort
            obtain ⟨m, hm, hlong'⟩ := hshort
            obtain ⟨y, rest, rfl⟩ := List.append_of_mem hm
            have hon : y ++ [m] <+: y ++ m :: rest := ⟨rest, by simp⟩
            exact Or.inl ⟨y, m, hon, hbefore.of_prefix hon, hlong'⟩
        · exact Or.inl ⟨x, n, hon, hway, hlong⟩

/-- A path without dots that can be handed on. -/
structure IsPlain (l : Location) : Prop where
  noDots : ".." ∉ l
  whole : '\x00' ∉ (Path.text ⟨.top, l⟩).toList

theorem locate_eq_ok (hl : IsPlain l) :
    t.locate ⟨.top, l⟩ = .ok x ↔ x = l ∧ t.Way l ∧ ¬ t.TooLong l := by
  have hwhole : ¬ (Path.text ⟨.top, l⟩).toList.contains '\x00' = true := by simpa using hl.whole
  have hfold := foldlM_step_eq_ok (t := t) (x := x) hl.noDots
  rw [locate, if_neg hwhole]
  split
  · next hlong => simp [TooLong.path hlong]
  · next hpath =>
      refine hfold.trans (and_congr_right fun _ => and_congr_right fun hway => ?_)
      constructor
      · rintro hshort (hlong | ⟨hon, -, hlong⟩)
        · exact hpath hlong
        · have hmem := hon.subset (List.mem_append_right _ (List.mem_singleton_self _))
          exact absurd hlong (Nat.not_lt.2 (hshort _ hmem))
      · intro hshort name hname
        obtain ⟨y, rest, rfl⟩ := List.append_of_mem hname
        have hon : y ++ [name] <+: y ++ name :: rest := ⟨rest, by simp⟩
        exact Nat.le_of_not_lt fun hlong => hshort (.name hon (hway.of_prefix hon) hlong)

theorem locate_eq_nameTooLong (hl : IsPlain l) :
    t.locate ⟨.top, l⟩ = .error .nameTooLong ↔ t.TooLong l := by
  have hwhole : ¬ (Path.text ⟨.top, l⟩).toList.contains '\x00' = true := by simpa using hl.whole
  rw [locate, if_neg hwhole]
  split
  · next hlong => exact iff_of_true rfl (.path hlong)
  · next hpath =>
      refine (foldlM_step_eq_nameTooLong hl.noDots).trans ⟨?_, ?_⟩
      · rintro ⟨x, name, hon, hway, hlong⟩
        exact .name hon hway hlong
      · rintro (hlong | ⟨hon, hway, hlong⟩)
        · exact absurd hlong hpath
        · exact ⟨_, _, hon, hway, hlong⟩

/-- Something is found where something is, unless the path cannot be looked up. -/
theorem hasEntry_eq_true (hl : IsPlain l) :
    t.hasEntry ⟨.top, l⟩ = .ok true ↔ t.Has l ∧ ¬ t.TooLong l := by
  rw [hasEntry_eq_ok]
  simp only [locate_eq_ok hl]
  constructor
  · rintro ⟨x, ⟨rfl, hway, hshort⟩, hat⟩
    exact ⟨⟨hat, hway⟩, hshort⟩
  · rintro ⟨⟨hat, hway⟩, hshort⟩
    exact ⟨l, ⟨rfl, hway, hshort⟩, hat⟩

theorem hasEntry_eq_tooLong (hl : IsPlain l) :
    (∃ e, t.hasEntry ⟨.top, l⟩ = .error e) ↔ t.TooLong l :=
  hasEntry_eq_error.trans (locate_eq_nameTooLong hl)

theorem hasEntry_eq_false (hl : IsPlain l) :
    t.hasEntry ⟨.top, l⟩ = .ok false ↔ ¬ t.Has l ∧ ¬ t.TooLong l := by
  have htrue := hasEntry_eq_true (t := t) hl
  have htooLong := hasEntry_eq_tooLong (t := t) hl
  cases hentry : t.hasEntry ⟨.top, l⟩ with
  | error e =>
      rw [hentry] at htooLong
      simp [htooLong.1 ⟨e, rfl⟩]
  | ok there =>
      rw [hentry] at htrue htooLong
      have hshort : ¬ t.TooLong l := fun h => by simpa using htooLong.2 h
      cases there with
      | true => simp [(htrue.1 rfl).1]
      | false => exact iff_of_true rfl ⟨fun h => by simpa using htrue.2 ⟨h, hshort⟩, hshort⟩

/-! ## What is seen from a directory -/

/-- Two trees have the same in a directory, to which the same directories lead. -/
structure SameFrom (base : Location) (t t' : Tree) : Prop where
  way : ∀ x, x <+: base → (t.at? x = some .directory ↔ t'.at? x = some .directory)
  below : ∀ x, base <+: x → t.at? x = t'.at? x

variable {base : Location}

theorem SameFrom.symm (h : SameFrom base t t') : SameFrom base t' t where
  way := fun x hx => (h.way x hx).symm
  below := fun x hx => (h.below x hx).symm

theorem SameFrom.way_imp (h : SameFrom base t t') (hl : base <+: l) (hx : x <+: l)
    (hway : t.Way x) : t'.Way x := by
  intro y hy hne
  have hat := hway y hy hne
  rcases List.prefix_or_prefix_of_prefix (hy.trans hx) hl with hbefore | hbelow
  · exact (h.way y hbefore).1 hat
  · exact (h.below y hbelow).symm.trans hat

theorem SameFrom.has_imp (h : SameFrom base t t') (hl : base <+: l) (hhas : t.Has l) :
    t'.Has l where
  there := h.below l hl ▸ hhas.there
  way := h.way_imp hl List.prefix_rfl hhas.way

theorem SameFrom.tooLong_imp (h : SameFrom base t t') (hl : base <+: l) (hlong : t.TooLong l) :
    t'.TooLong l := by
  cases hlong with
  | path hlong => exact .path hlong
  | name hon hway hlong => exact .name hon (h.way_imp hl hon hway) hlong

/-- Whether something is found in a directory is seen from the directory. -/
theorem SameFrom.hasEntry_eq (h : SameFrom base t t') (hl : base <+: l) (hplain : IsPlain l) :
    t.hasEntry ⟨.top, l⟩ = t'.hasEntry ⟨.top, l⟩ := by
  have hhas : t.Has l ↔ t'.Has l := ⟨h.has_imp hl, h.symm.has_imp hl⟩
  have hlong : t.TooLong l ↔ t'.TooLong l := ⟨h.tooLong_imp hl, h.symm.tooLong_imp hl⟩
  have htrue := hasEntry_eq_true (t := t') hplain
  have hfalse := hasEntry_eq_false (t := t') hplain
  rw [← hhas, ← hlong] at htrue hfalse
  cases hentry : t.hasEntry ⟨.top, l⟩ with
  | ok there =>
      cases there with
      | true => exact (htrue.2 ((hasEntry_eq_true hplain).1 hentry)).symm
      | false => exact (hfalse.2 ((hasEntry_eq_false hplain).1 hentry)).symm
  | error e =>
      have htooLong := (hasEntry_eq_tooLong hplain).1 ⟨e, hentry⟩
      have hlocate := (locate_eq_nameTooLong hplain).2 htooLong
      have hlocate' := (locate_eq_nameTooLong hplain).2 (hlong.1 htooLong)
      rw [← hentry, hasEntry, hasEntry, hlocate, hlocate']

/-- What is read in a directory is seen from the directory. -/
theorem SameFrom.read_eq (h : SameFrom base t t') (hl : base <+: l) (hplain : IsPlain l)
    (hfound : t.hasEntry ⟨.top, l⟩ = .ok true) : t.read ⟨.top, l⟩ = t'.read ⟨.top, l⟩ := by
  obtain ⟨hhas, hshort⟩ := (hasEntry_eq_true hplain).1 hfound
  have hlong : ¬ t'.TooLong l := fun hlong => hshort (h.symm.tooLong_imp hl hlong)
  have hlocate := (locate_eq_ok (x := l) hplain).2 ⟨rfl, hhas.way, hshort⟩
  have hlocate' := (locate_eq_ok (x := l) hplain).2 ⟨rfl, (h.has_imp hl hhas).way, hlong⟩
  rw [read, read, hlocate, hlocate']
  simp only [h.below l hl]

/-! ## Making directories -/

/-- A tree has become another one by directories that were made where there was nothing. -/
structure Grows (t t' : Tree) : Prop where
  here : t'.here = t.here
  entries : ∀ x, t'.at? x = t.at? x ∨ (t.at? x = none ∧ t'.at? x = some .directory)

theorem Grows.refl (t : Tree) : t.Grows t :=
  ⟨rfl, fun _ => Or.inl rfl⟩

theorem Grows.trans {t'' : Tree} (h : t.Grows t') (h' : t'.Grows t'') : t.Grows t'' where
  here := h'.here.trans h.here
  entries := by
    intro x
    rcases h.entries x with heq | ⟨hnone, hdir⟩
    · rw [← heq]
      exact h'.entries x
    · rcases h'.entries x with heq | ⟨hnone', -⟩
      · exact Or.inr ⟨hnone, heq.trans hdir⟩
      · exact absurd (hdir.symm.trans hnone') (by simp)

theorem Grows.keeps (h : t.Grows t') : t.Keeps t' where
  here := h.here
  directories := by
    intro x hx
    rcases h.entries x with heq | ⟨hnone, -⟩
    · exact heq.trans hx
    · exact absurd (hx.symm.trans hnone) (by simp)

/-- No file is made, lost or changed. -/
theorem Grows.file_iff (h : t.Grows t') :
    t'.at? x = some (.file bytes) ↔ t.at? x = some (.file bytes) := by
  rcases h.entries x with heq | ⟨hnone, hdir⟩
  · rw [heq]
  · simp [hnone, hdir]

/-- A path leads to a location with some of its names, from the first on. -/
def Passes (t : Tree) (p : Path) (x : Location) : Prop :=
  ∃ names, names <+: p.names ∧ t.locate ⟨p.root, names⟩ = .ok x

theorem Passes.of_keeps (h : t.Keeps t') (hx : t.Passes p x) : t'.Passes p x := by
  obtain ⟨names, hnames, hlocate⟩ := hx
  exact ⟨names, hnames, locate_of_keeps h hlocate⟩

/-- A path without dots passes what is above the location that it leads to. -/
theorem Passes.isPrefix (hx : t.Passes p x) (hdots : ".." ∉ p.names) (hl : t.locate p = .ok l) :
    x <+: l := by
  obtain ⟨names, hnames, hlocate⟩ := hx
  have hbefore : ".." ∉ names := fun hmem => hdots (hnames.subset hmem)
  rw [eq_append_of_locate hbefore hlocate, eq_append_of_locate hdots hl]
  exact (List.prefix_append_right_inj _).2 hnames

/-- A tree has grown on the way of a path, which passes all directories that are new. -/
structure GrowsOn (t t' : Tree) (p : Path) : Prop extends Grows t t' where
  passes : ∀ x, t.at? x = none → t'.at? x = some .directory → t'.Passes p x

theorem GrowsOn.refl (t : Tree) (p : Path) : t.GrowsOn t p where
  toGrows := Grows.refl t
  passes := fun _ hnone hdir => absurd (hnone.symm.trans hdir) (by simp)

theorem GrowsOn.trans {t'' : Tree} (h : t.GrowsOn t' p) (h' : t'.GrowsOn t'' p) :
    t.GrowsOn t'' p where
  toGrows := h.toGrows.trans h'.toGrows
  passes := by
    intro x hnone hdir
    rcases h'.entries x with heq | ⟨hnone', -⟩
    · exact (h.passes x hnone (heq.symm.trans hdir)).of_keeps h'.keeps
    · exact h'.passes x hnone' hdir

/-- What is on the way of a path is on the way of all paths that go on from there. -/
theorem GrowsOn.extend {root : Root} {names names' : List String}
    (h : t.GrowsOn t' ⟨root, names⟩) (hnames : names <+: names') : t.GrowsOn t' ⟨root, names'⟩ where
  toGrows := h.toGrows
  passes := by
    intro x hnone hdir
    obtain ⟨before, hbefore, hlocate⟩ := h.passes x hnone hdir
    exact ⟨before, hbefore.trans hnames, hlocate⟩

theorem growsOn_of_makeDirectory (h : t.makeDirectory p = .ok t') : t.GrowsOn t' p := by
  rw [makeDirectory] at h
  split at h
  · exact absurd h (by simp)
  · next l hl =>
      split at h
      · exact absurd h (by simp)
      · next hnone =>
          obtain rfl := Except.ok.inj h
          have hat : t.at? l = none := by simpa using hnone
          have hfile : t.at? l ≠ some .directory := by simp [hat]
          have hput : ∀ x, (t.put l .directory).at? x
              = if x = l then some .directory else t.at? x :=
            fun x => at?_put (ne_nil_of_at? hfile)
          refine ⟨⟨rfl, fun x => ?_⟩, fun x hnone hdir => ?_⟩
          · rw [hput]
            split
            · next heq => exact Or.inr ⟨heq ▸ hat, rfl⟩
            · exact Or.inl rfl
          · rw [hput] at hdir
            split at hdir
            · next heq =>
                refine ⟨p.names, List.prefix_rfl, ?_⟩
                rw [heq]
                exact locate_of_keeps (keeps_put hfile) hl
            · exact absurd (hnone.symm.trans hdir) (by simp)

theorem growsOn_of_ensureDirectory {missing : FileError → Option FileError × Tree}
    (h : ∀ e, t.GrowsOn (missing e).2 p) : t.GrowsOn (t.ensureDirectory p missing).2 p := by
  unfold ensureDirectory
  split
  · next hmake => exact growsOn_of_makeDirectory hmake
  · next e _ =>
      split
      · exact h e
      · exact GrowsOn.refl t p
      · split
        · exact GrowsOn.refl t p
        · exact GrowsOn.refl t p

theorem growsOn_of_ensureNames (root : Root) (names : List String) (t : Tree) :
    t.GrowsOn (ensureNames root names t).2 ⟨root, names.reverse⟩ := by
  induction names generalizing t with
  | nil => exact growsOn_of_ensureDirectory fun _ => GrowsOn.refl t _
  | cons name before ih =>
      refine growsOn_of_ensureDirectory fun _ => ?_
      have hbefore : t.GrowsOn (ensureNames root before t).2 ⟨root, (name :: before).reverse⟩ :=
        (ih t).extend (by rw [List.reverse_cons]; exact List.prefix_append _ _)
      split
      · next heq => rwa [heq] at hbefore
      · next heq =>
          rw [heq] at hbefore
          exact hbefore.trans (growsOn_of_ensureDirectory fun _ => GrowsOn.refl _ _)

/-- Making a directory adds directories on its way and does nothing else. -/
theorem growsOn_ensureDirectories (t : Tree) (p : Path) :
    t.GrowsOn (t.ensureDirectories p).2 p := by
  have hgrows := growsOn_of_ensureNames p.root p.names.reverse t
  rwa [List.reverse_reverse] at hgrows

/-- Making directories adds directories and does nothing else. -/
theorem grows_ensureDirectories (t : Tree) (p : Path) : t.Grows (t.ensureDirectories p).2 :=
  (growsOn_ensureDirectories t p).toGrows

theorem ensureDirectory_of_isDirectory (h : t.isDirectory p = true)
    (missing : FileError → Option FileError × Tree) : t.ensureDirectory p missing = (none, t) := by
  obtain ⟨l, hl, hat⟩ := isDirectory_iff.1 h
  have hmake : t.makeDirectory p = .error ⟨.present, p⟩ := by
    rw [makeDirectory, hl]
    simp [hat]
  rw [ensureDirectory, hmake]
  simp [h]

/-- Where a directory is, none has to be made. -/
theorem ensureDirectories_of_isDirectory (h : t.isDirectory p = true) :
    t.ensureDirectories p = (none, t) := by
  rw [ensureDirectories]
  cases hnames : p.names.reverse with
  | nil =>
      have hp : p = ⟨p.root, []⟩ := by
        rw [List.reverse_eq_nil_iff] at hnames
        rw [← hnames]
      rw [ensureNames, ← hp]
      exact ensureDirectory_of_isDirectory h _
  | cons name before =>
      have hp : p = ⟨p.root, (name :: before).reverse⟩ := by
        rw [← hnames, List.reverse_reverse]
      rw [ensureNames]
      simp only [← hp]
      exact ensureDirectory_of_isDirectory h _

end TagCloud.File.Tree
