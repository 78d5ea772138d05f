import TagCloud.Proofs.Directive.Coherent
import TagCloud.Proofs.Markup.Scan
import TagCloud.Proofs.Number.Fixed
import TagCloud.Proofs.Order.Selection

/-!
# Reading a cloud back from its markup

The markup of a cloud is lines joined together, one for each label, of which the last has no
separator. Scanned for anchors it gives the labels back, in their order and with the sizes that they
were written with, and what lies outside of the anchors is exactly the wrappers, the separators and
the ends of the lines.

This takes three things. Each line is scanned into its own tile, whatever follows it: the wrappers
do not go on like an anchor, and the parts of the anchor end where the scanner cuts them. The lines
of some items are one line for each of them, told apart by their place only. And the sizes, which
nobody can choose, are numbers with a unit and hold no quote.
-/

namespace TagCloud

open scoped List
open TagCloud.Markup

/-- A text without the signs that markup is made of. -/
def FreeOfMarkup (s : String) : Prop :=
  ∀ c ∈ s.toList, c ≠ '<' ∧ c ≠ '>' ∧ c ≠ '"'

instance (s : String) : Decidable (FreeOfMarkup s) :=
  inferInstanceAs (Decidable (∀ c ∈ s.toList, c ≠ '<' ∧ c ≠ '>' ∧ c ≠ '"'))

/-- What a scanner sees of an item: its anchor between the wrappers, behind them the separator if
more items follow, and the end of the line. -/
def Config.tile {R : Type} (c : Config R) (more : Bool) (a : Anchor) : List Piece :=
  c.tagBefore.toList.map .plain
    ++ .anchor a
      :: (c.tagAfter ++ (if more then c.separator else "") ++ "\n").toList.map .plain

/-- What a scanner sees of a cloud. -/
def Config.layout {R : Type} (c : Config R) (shown : List Anchor) : List Piece :=
  shown.zipIdx.flatMap fun (a, i) => c.tile (i + 1 < shown.length) a

/-- An anchor shows a label: the text of its size with the unit, its link and its name. -/
def Label.ShownAs (c : Config Float) (base : String) (label : Label Float) (a : Anchor) : Prop :=
  ∃ size, sizeText c (.real label.weight) = .ok size
    ∧ a = ⟨(size ++ c.unit.name).toList, (tagHref base label.name).toList, label.name.toList⟩

/-! ## One line -/

section

variable {R : Type}

/-- The anchor of an item, taken apart. -/
def Item.parts (c : Config R) (base : String) (item : Item) : Anchor :=
  ⟨(item.size ++ c.unit.name).toList, (tagHref base item.name).toList, item.name.toList⟩

/-- The line of an item, with a separator if more items follow. -/
def Item.line (c : Config R) (base : String) (item : Item) (more : Bool) : String :=
  c.tagBefore ++ anchor c base item ++ c.tagAfter ++ (if more then c.separator else "") ++ "\n"

theorem toList_spliced (a size unit b href c name d : String) :
    (a ++ size ++ unit ++ b ++ href ++ c ++ name ++ d).toList
      = a.toList ++ ((size ++ unit).toList ++ (b.toList
          ++ (href.toList ++ (c.toList ++ (name.toList ++ d.toList))))) := by
  simp only [String.toList_append, List.append_assoc]

theorem anchor_eq_written (c : Config R) (base : String) (item : Item) :
    (anchor c base item).toList = written (item.parts c base) := by
  unfold anchor Item.parts
  refine (toList_spliced _ _ _ _ _ _ _ _).trans ?_
  refine Eq.trans ?_ (written_mk _ _ _).symm
  unfold opening middle closing ending
  exact Eq.refl _

theorem itemLines_eq_map_zipIdx (c : Config R) (base : String) (items : List Item) :
    itemLines c base items
      = items.zipIdx.map fun p => p.1.line c base (p.2 + 1 < items.length) := by
  -- the items are numbered from where the rest of them begins
  have hfrom : ∀ (items : List Item) (start n : Nat), start + items.length = n →
      itemLines c base items = (items.zipIdx start).map fun p => p.1.line c base (p.2 + 1 < n) := by
    intro items
    induction items with
    | nil =>
        intro start n hn
        rfl
    | cons item items ih =>
        intro start n hn
        rw [List.length_cons] at hn
        cases items with
        | nil =>
            have hlast : ¬ start + 1 < n := by
              rw [List.length_nil] at hn
              omega
            simp [itemLines, Item.line, hlast]
        | cons next rest =>
            have hmore : start + 1 < n := by
              rw [List.length_cons] at hn
              omega
            rw [itemLines, ih (start + 1) n (by omega), List.zipIdx_cons, List.map_cons]
            · simp [Item.line, hmore]
            · simp
  exact hfrom items 0 items.length (by omega)

/-- Only the markup of no items is empty. -/
theorem join_itemLines_eq_empty {c : Config R} {base : String} {items : List Item} :
    String.join (itemLines c base items) = "" ↔ items = [] := by
  cases items with
  | nil => simp [itemLines]
  | cons item items =>
      refine iff_of_false (fun hempty => ?_) (by simp)
      rw [itemLines_eq_map_zipIdx, List.zipIdx_cons, List.map_cons, String.join_cons] at hempty
      have hanchor : anchor c base item = "" := by
        simp only [String.append_eq_empty_iff, Item.line] at hempty
        exact hempty.1.1.1.1.2
      have hwritten : written (item.parts c base) = [] := by
        rw [← anchor_eq_written, hanchor]
        rfl
      rw [written, opening_eq] at hwritten
      exact absurd hwritten (by simp)

/-- A wrapper is nothing, or a tag that does not go on like an anchor. -/
theorem scan_append_of_wrapper {s : String} (h : s = "" ∨ s = listTagBefore ∨ s = listTagAfter)
    (rest : List Char) : scan (s.toList ++ rest) = s.toList.map .plain ++ scan rest := by
  rcases h with rfl | rfl | rfl
  · rfl
  · have hrest : '<' ∉ ['i', '>'] := by decide
    exact scan_append_of_tag (by decide : 'l' ≠ 'a') (by decide) hrest rest
  · have hrest : '<' ∉ ['l', 'i', '>'] := by decide
    exact scan_append_of_tag (by decide : '/' ≠ 'a') (by decide) hrest rest

theorem Config.Coherent.tagBefore {c : Config R} (h : c.Coherent) :
    c.tagBefore = "" ∨ c.tagBefore = listTagBefore ∨ c.tagBefore = listTagAfter := by
  rcases h.wrapping with ⟨-, hbefore, -⟩ | ⟨-, hbefore, -⟩
  · exact Or.inr (Or.inl hbefore)
  · exact Or.inl hbefore

theorem Config.Coherent.tagAfter {c : Config R} (h : c.Coherent) :
    c.tagAfter = "" ∨ c.tagAfter = listTagBefore ∨ c.tagAfter = listTagAfter := by
  rcases h.wrapping with ⟨-, -, hafter, -⟩ | ⟨-, -, hafter⟩
  · exact Or.inr (Or.inr hafter)
  · exact Or.inl hafter

theorem newline_free : '<' ∉ "\n".toList := by
  decide

theorem scan_line {c : Config R} (hc : c.Coherent) (hseparator : '<' ∉ c.separator.toList)
    {base : String} {item : Item} (hitem : Legible (item.parts c base)) (more : Bool)
    (rest : List Char) :
    scan ((item.line c base more).toList ++ rest)
      = c.tile more (item.parts c base) ++ scan rest := by
  have hmore : '<' ∉ (if more then c.separator else "").toList := by
    cases more with
    | false => simp
    | true => exact hseparator
  simp only [Item.line, Config.tile, String.toList_append, List.append_assoc, anchor_eq_written,
    List.map_append, List.cons_append]
  rw [scan_append_of_wrapper hc.tagBefore, scan_written hitem, scan_append_of_wrapper hc.tagAfter,
    scan_append_of_plain hmore, scan_append_of_plain newline_free]

/-- The markup of some items is scanned into their tiles. -/
theorem scan_itemLines {c : Config R} (hc : c.Coherent) (hseparator : '<' ∉ c.separator.toList)
    {base : String} {items : List Item} (hitems : ∀ item ∈ items, Legible (item.parts c base)) :
    scan (String.join (itemLines c base items)).toList
      = c.layout (items.map (Item.parts c base)) := by
  have hlines : ∀ pairs : List (Item × Nat), (∀ p ∈ pairs, Legible (p.1.parts c base)) →
      ∀ more : Nat → Bool,
        scan (pairs.flatMap fun p => (p.1.line c base (more p.2)).toList)
          = pairs.flatMap fun p => c.tile (more p.2) (p.1.parts c base) := by
    intro pairs hpairs more
    induction pairs with
    | nil => exact scan_nil
    | cons p pairs ih =>
        rw [List.flatMap_cons, List.flatMap_cons,
          scan_line hc hseparator (hpairs p List.mem_cons_self),
          ih fun q hq => hpairs q (List.mem_cons_of_mem p hq)]
  have htext : (String.join (itemLines c base items)).toList
      = items.zipIdx.flatMap fun p => (p.1.line c base (p.2 + 1 < items.length)).toList := by
    rw [String.toList_join, itemLines_eq_map_zipIdx, List.flatMap_map]
  rw [htext, hlines items.zipIdx (fun p hp => hitems p.1 (List.fst_mem_of_mem_zipIdx hp))
    (fun i => i + 1 < items.length), Config.layout, List.zipIdx_map, List.flatMap_map,
    List.length_map]
  rfl

end

/-! ## Sizes -/

theorem Quantity.fixed_of_written {R : Type} [Magnitude R] {places : Nat} {q : Quantity R}
    {text : String} (h : q.written places = .ok text) :
    ∃ x : R, text = Magnitude.fixed places x := by
  unfold Quantity.written at h
  split at h
  · exact absurd h (by simp)
  · split at h
    · exact absurd h (by simp)
    · next x _ =>
        split at h
        · exact absurd h (by simp)
        · exact ⟨x, (Except.ok.inj h).symm⟩

theorem Quantity.written_real {R : Type} [Magnitude R] {places : Nat} (h : places ≤ placesLimit)
    (x : R) : (Quantity.real x).written places = .ok (Magnitude.fixed places x) := by
  have hrange : placesLimit ≤ placesRange := by decide
  rw [Quantity.written, if_neg (by omega)]
  simp only [Quantity.magnitude]
  rw [if_neg (by omega)]

section

variable {R : Type} [Magnitude R] {c : Config R} {least greatest w : R} {q : Quantity R}

theorem Quantity.combine_real {exact : Int → Int → Int} {rounded : R → R → R} (least : R)
    (h : q.magnitude = .ok w) :
    Quantity.combine exact rounded (.real least) q = .ok (.real (rounded least w)) := by
  have hcombine : Quantity.combine exact rounded (.real least) q
      = q.magnitude >>= fun y => .ok (.real (rounded least y)) := by
    cases q <;> rfl
  rw [hcombine, h]
  rfl

/-- Between two magnitudes a size is a magnitude as well. -/
theorem Config.sizeAt_real (hmin : c.sizeMin = .real least) (hmax : c.sizeMax = .real greatest)
    (hq : q.magnitude = .ok w) :
    c.sizeAt q = .ok (.real (least + (greatest - least) * w)) := by
  have hextent : c.sizeMax.sub c.sizeMin = .ok (.real (greatest - least)) := by
    rw [hmin, hmax]
    rfl
  have hpart : (Quantity.real (greatest - least)).mul q = .ok (.real ((greatest - least) * w)) :=
    Quantity.combine_real _ hq
  have hsum : c.sizeMin.add (.real ((greatest - least) * w))
      = .ok (.real (least + (greatest - least) * w)) := by
    rw [hmin]
    rfl
  unfold Config.sizeAt Config.scale Scale.at
  simp only [hextent, bind, Except.bind, pure, Except.pure, hpart, hsum]

end

/-- The whole sizes that are usual are not too large. -/
theorem ofInt_usual : ∃ x y : Float, Magnitude.ofInt 100 = .ok x ∧ Magnitude.ofInt 70 = .ok y := by
  have hextent : (Number.ofInt? 100).isSome = true := by decide
  have hstart : (Number.ofInt? 70).isSome = true := by decide
  obtain ⟨x, hx⟩ := Option.isSome_iff_exists.1 hextent
  obtain ⟨y, hy⟩ := Option.isSome_iff_exists.1 hstart
  refine ⟨x, y, ?_, ?_⟩
  · rw [Magnitude.ofInt, show Magnitude.ofInt? 100 = some x from hx]
  · rw [Magnitude.ofInt, show Magnitude.ofInt? 70 = some y from hy]

/-- Every weight has a size that can be written, up to the greatest number of places. -/
theorem Config.Coherent.sizeText_ok {c : Config Float} (hc : c.Coherent)
    (hprecision : c.precision ≤ placesLimit) (weight : Float) :
    ∃ text, sizeText c (.real weight) = .ok text := by
  have hsize : ∃ x : Float, c.sizeAt (.real weight) = .ok (.real x) := by
    rcases hc.sizes with ⟨hmin, hmax, -⟩ | ⟨least, greatest, hmin, hmax⟩
    · obtain ⟨extent, start, hextent, hstart⟩ := ofInt_usual
      refine ⟨start + extent * weight, ?_⟩
      rw [Config.sizeAt, Config.scale, hmin, hmax]
      simp [Scale.at, Quantity.sub, Quantity.mul, Quantity.add, Quantity.combine,
        Quantity.magnitude, hextent, hstart, bind, Except.bind, pure, Except.pure]
    · exact ⟨_, Config.sizeAt_real hmin hmax rfl⟩
  obtain ⟨x, hx⟩ := hsize
  refine ⟨Magnitude.fixed c.precision x, ?_⟩
  rw [sizeText, hx]
  exact Quantity.written_real hprecision x

/-- The text of a size with its unit has no quote in it. -/
theorem Config.Coherent.quote_not_mem_size {c : Config Float} (hc : c.Coherent) {weight : Float}
    {text : String} (h : sizeText c (.real weight) = .ok text) :
    '"' ∉ (text ++ c.unit.name).toList := by
  have htext : '"' ∉ text.toList := by
    unfold sizeText at h
    split at h
    · exact absurd h (by simp)
    · obtain ⟨x, rfl⟩ := Quantity.fixed_of_written h
      exact Number.quote_not_mem_fixed c.precision x
  have hunit : '"' ∉ c.unit.name.toList := by
    rcases hc.unit with hunit | hunit | hunit
    · rw [hunit]; decide
    · rw [hunit]; decide
    · rw [hunit]; decide
  rw [String.toList_append, List.mem_append, not_or]
  exact ⟨htext, hunit⟩

/-! ## Links -/

theorem quote_not_mem_tagHref {base name : String} (hbase : FreeOfMarkup base)
    (hname : FreeOfMarkup (Text.lower name)) : '"' ∉ (tagHref base name).toList := by
  have hslash : '"' ∉ "/".toList := by decide
  have hfront : '"' ∉ (base.toList.reverse.dropWhile (· == '/')).reverse := by
    intro h
    have hmem := (List.dropWhile_suffix _).subset (List.mem_reverse.1 h)
    exact (hbase _ (List.mem_reverse.1 hmem)).2.2 rfl
  have hback : '"' ∉ (Text.lower name).toList := fun h => (hname _ h).2.2 rfl
  simp only [tagHref, String.toList_append, String.toList_ofList, List.mem_append, not_or]
  exact ⟨⟨⟨hfront, hslash⟩, hback⟩, hslash⟩

/-! ## The whole cloud -/

section

variable {c : Config Float} {base : String} {labels : List (Label Float)}

/-- Labels are rendered as items that show them. -/
theorem renderItems_eq_ok {html : String} (h : renderItems c base labels = .ok html) :
    ∃ items : List Item, html = String.join (itemLines c base items) ∧
      List.Forall₂
        (fun label item => sizeText c (.real label.weight) = .ok item.size
          ∧ item.name = label.name)
        labels items := by
  simp only [renderItems, renderQuantities, bind_eq_ok, pure_eq_ok, mapM_eq_ok,
    List.forall₂_map_left_iff] at h
  obtain ⟨items, hitems, rfl⟩ := h
  refine ⟨items, rfl, hitems.imp fun _ item hitem => ?_⟩
  obtain ⟨size, hsize, rfl⟩ := map_eq_ok.1 hitem
  exact ⟨hsize, rfl⟩

/-- Only no labels have no markup. -/
theorem eq_nil_of_renderItems (h : renderItems c base labels = .ok "") : labels = [] := by
  obtain ⟨items, hempty, hitems⟩ := renderItems_eq_ok h
  rw [join_itemLines_eq_empty.1 hempty.symm, List.forall₂_nil_right_iff] at hitems
  exact hitems

/-- Labels of a coherent configuration can be rendered unless more places are asked for than a
number is written with. -/
theorem Config.Coherent.renderItems_ok (hc : c.Coherent)
    (h : labels = [] ∨ c.precision ≤ placesLimit) :
    ∃ html, renderItems c base labels = .ok html := by
  have hitems : ∃ items : List Item,
      List.Forall₂ (fun label item => Label.item c label = .ok item)
        (labels.map fun label => (⟨label.name, .real label.weight⟩ : Label (Quantity Float)))
        items := by
    rcases h with rfl | hprecision
    · exact ⟨[], List.Forall₂.nil⟩
    · induction labels with
      | nil => exact ⟨[], List.Forall₂.nil⟩
      | cons label labels ih =>
          obtain ⟨items, hrest⟩ := ih
          obtain ⟨size, hsize⟩ := hc.sizeText_ok hprecision label.weight
          refine ⟨⟨label.name, size⟩ :: items, List.Forall₂.cons ?_ hrest⟩
          exact map_eq_ok.2 ⟨size, hsize, rfl⟩
  obtain ⟨items, hitems⟩ := hitems
  refine ⟨String.join (itemLines c base items), ?_⟩
  rw [renderItems, renderQuantities, bind_eq_ok]
  exact ⟨items, mapM_eq_ok.2 hitems, rfl⟩

/-- The markup of labels is scanned into the layout of anchors that show them. -/
theorem Config.Coherent.scan_renderItems (hc : c.Coherent)
    (hseparator : '<' ∉ c.separator.toList) (hbase : FreeOfMarkup base)
    (hnames : ∀ label ∈ labels, FreeOfMarkup label.name ∧ FreeOfMarkup (Text.lower label.name))
    {html : String} (h : renderItems c base labels = .ok html) :
    ∃ shown, List.Forall₂ (Label.ShownAs c base) labels shown ∧
      scan html.toList = c.layout shown := by
  obtain ⟨items, rfl, hitems⟩ := renderItems_eq_ok h
  have hlegible : ∀ item ∈ items, Legible (item.parts c base) := by
    intro item hitem
    obtain ⟨label, hlabel, hsize, hname⟩ := exists_of_mem_forall₂ hitems hitem
    obtain ⟨hfree, hlower⟩ := hnames label hlabel
    rw [Item.parts, hname]
    have hhref := quote_not_mem_tagHref hbase hlower
    have hlt : '<' ∉ label.name.toList := fun h => (hfree _ h).1 rfl
    exact legible_mk (hc.quote_not_mem_size hsize) hhref hlt
  refine ⟨items.map (Item.parts c base), ?_, scan_itemLines hc hseparator hlegible⟩
  rw [List.forall₂_map_right_iff]
  refine hitems.imp fun _ item hitem => ?_
  refine ⟨item.size, hitem.1, ?_⟩
  rw [Item.parts, hitem.2]

end

/-- The anchors of a layout are those that were laid out. -/
theorem anchors_of_scan {R : Type} {c : Config R} {cs : List Char} {shown : List Anchor}
    (h : scan cs = c.layout shown) : anchors cs = shown := by
  have hplain : ∀ text : List Char, (text.map Piece.plain).filterMap Piece.anchor? = [] := by
    intro text
    rw [List.filterMap_map, List.filterMap_eq_nil_iff]
    exact fun _ _ => rfl
  have htile : ∀ more a, (c.tile more a).filterMap Piece.anchor? = [a] := by
    intro more a
    rw [Config.tile, List.filterMap_append, hplain, List.filterMap_cons, hplain]
    rfl
  rw [anchors, h, Config.layout, List.filterMap_flatMap]
  simp only [htile]
  rw [← List.map_eq_flatMap, List.zipIdx_map_fst]

/-- What is read back from the markup of a cloud: the anchors `shown` are those of its labels, in
their order and with nothing but the wrappers, the separators and the ends of the lines around them,
and the labels are those of the occurrences `kept`. -/
structure ReadBack (c : Config Float) (base : String) (tallies : List Tally)
    (labels : List (Label Float)) (html : String) (shown : List Anchor)
    (kept : List (Tally × Nat)) : Prop where
  /-- There is one anchor for each label, with its size, its link and its name. -/
  anchors : anchors html.toList = shown
  shows : List.Forall₂ (Label.ShownAs c base) labels shown
  /-- What lies outside of the anchors is as the configuration has it. -/
  layout : scan html.toList = c.layout shown
  /-- The labels are those that the occurrences were given. -/
  labels : ∃ weighed, weigh c.threshold tallies = .ok weighed ∧
    List.Forall₂
      (fun o label => label.name = o.1.name
        ∧ (o, label) ∈ (occurrences c.threshold tallies).zip weighed)
      kept labels
  /-- No occurrence is shown twice, and each of them reaches the threshold. -/
  nodup : kept.Nodup
  reaches : ∀ o ∈ kept, tallies[o.2]? = some o.1 ∧ c.threshold ≤ o.1.count
  /-- All of them are shown, or as many as the limit allows. -/
  unlimited : c.limit = 0 → kept ~ occurrences c.threshold tallies
  limited : 0 < c.limit → kept.length = min c.limit (occurrences c.threshold tallies).length

/-- The markup of a cloud can be read back, and whenever the labels can be built and their sizes
have no more places than numbers are written with, there is a markup. -/
theorem renderCloud_readBack {directive base : String} {tallies : List Tally} {g : Generator}
    {c : Config Float} (hc : Directive.parse directive = .ok c)
    (hnames : ∀ t ∈ tallies, FreeOfMarkup t.name ∧ FreeOfMarkup (Text.lower t.name))
    (hbase : FreeOfMarkup base) (hseparator : '<' ∉ c.separator.toList) :
    (∀ labels later, buildCloud c (.generator g) tallies = .ok (labels, later) →
      labels = [] ∨ c.precision ≤ placesLimit →
        ∃ html, renderCloud c base (.generator g) tallies = .ok (html, later)) ∧
      ∀ html later, renderCloud c base (.generator g) tallies = .ok (html, later) →
        ∃ labels shown kept, buildCloud c (.generator g) tallies = .ok (labels, later)
          ∧ ReadBack c base tallies labels html shown kept := by
  have hcoherent := Directive.coherent_of_parse hc
  constructor
  · intro labels later hbuild hplaces
    have hhtml : ∃ html, renderItems c base labels = .ok html :=
      hcoherent.renderItems_ok hplaces
    obtain ⟨html, hhtml⟩ := hhtml
    refine ⟨html, ?_⟩
    rw [renderCloud, hbuild, bind_eq_ok]
    exact ⟨_, rfl, bind_eq_ok.2 ⟨html, mapError_eq_ok.2 hhtml, rfl⟩⟩
  · intro html later hrender
    simp only [renderCloud, bind_eq_ok, mapError_eq_ok, pure_eq_ok, Prod.mk.injEq] at hrender
    obtain ⟨⟨labels, later⟩, hbuild, html, hhtml, rfl, rfl⟩ := hrender
    obtain ⟨weighed, kept, hweigh, hkept, hcount, hlabels⟩ := buildCloud_occurrences hbuild
    have hreaches : ∀ o ∈ kept, tallies[o.2]? = some o.1 ∧ c.threshold ≤ o.1.count := by
      intro o ho
      obtain ⟨hmem, hthreshold⟩ := List.mem_filter.1 (hkept.subset ho)
      exact ⟨List.mem_zipIdx_iff_getElem?.1 hmem, of_decide_eq_true hthreshold⟩
    have hfree : ∀ label ∈ labels,
        FreeOfMarkup label.name ∧ FreeOfMarkup (Text.lower label.name) := by
      intro label hlabel
      obtain ⟨o, ho, hname, -⟩ := exists_of_mem_forall₂ hlabels hlabel
      rw [hname]
      exact hnames o.1 (List.mem_of_getElem? (hreaches o ho).1)
    obtain ⟨shown, hshown, hscan⟩ := hcoherent.scan_renderItems hseparator hbase hfree hhtml
    refine ⟨labels, shown, kept, hbuild, anchors_of_scan hscan, hshown, hscan,
      ⟨weighed, hweigh, hlabels⟩, ?_, hreaches, ?_, ?_⟩
    · obtain ⟨ordered, hperm, hsub⟩ := hkept
      exact hperm.nodup (hsub.nodup (nodup_occurrences _ _))
    · intro hzero
      rw [hzero, shownCount, if_pos rfl] at hcount
      exact hkept.perm_of_length_le (by omega)
    · intro hpos
      rw [shownCount, if_neg (Nat.ne_of_gt hpos)] at hcount
      exact hcount

/-- A paragraph in random order, cut to two of its three tags, whose separator holds a quote. -/
theorem renderCloud_readBack_rand :
    ∃ (c : Config Float) (tallies : List Tally),
      tallies = [⟨"Berlin", 2⟩, ⟨"Bonn", 3⟩, ⟨"Köln", 3⟩] ∧
      Directive.parse "sort: rand, limit: 2, style: para\x7b \" > \x7d" = .ok c ∧
      (∀ t ∈ tallies, FreeOfMarkup t.name ∧ FreeOfMarkup (Text.lower t.name)) ∧
      FreeOfMarkup "/tags/" ∧ '<' ∉ c.separator.toList ∧
      ∀ html later,
        renderCloud c "/tags/" (.generator (Generator.ofSeed 7)) tallies = .ok (html, later) →
          ∃ labels shown kept,
            buildCloud c (.generator (Generator.ofSeed 7)) tallies = .ok (labels, later)
              ∧ ReadBack c "/tags/" tallies labels html shown kept := by
  have hraw : RawSettings.ofEntries
      (Directive.split "sort: rand, limit: 2, style: para\x7b \" > \x7d")
      = ⟨none, none, some "2", some "rand", some "para\x7b \" > \x7d"⟩ := by decide +kernel
  have hparse : ∃ c : Config Float,
      Directive.parse "sort: rand, limit: 2, style: para\x7b \" > \x7d" = .ok c
        ∧ c.separator = " \" > " := by
    rw [Directive.parse, hraw]
    exact ⟨_, rfl, rfl⟩
  obtain ⟨c, hc, hseparator⟩ := hparse
  have hnames : ∀ t ∈ [(⟨"Berlin", 2⟩ : Tally), ⟨"Bonn", 3⟩, ⟨"Köln", 3⟩],
      FreeOfMarkup t.name ∧ FreeOfMarkup (Text.lower t.name) := by decide +kernel
  have hbase : FreeOfMarkup "/tags/" := by decide
  have hfree : '<' ∉ c.separator.toList := by
    rw [hseparator]
    decide
  exact ⟨c, _, rfl, hc, hnames, hbase, hfree,
    (renderCloud_readBack hc hnames hbase hfree).2⟩

end TagCloud
