import TagCloud.Proofs.Site.Index

/-!
# The element around a cloud

A cloud is put into a list element when its items are wrapped as items of a list, and into a
paragraph when they are not. Three places have to agree on that. The wrappers come with the style
when a directive is read; the page that is written around a cloud asks whether the style is that of
a list, and the index page asks whether it is that of a paragraph, of the same directive but read a
second time. They agree since a directive asks for no style but these two, and since its wrappers
are those of its style.

Which element a page puts a cloud into is said from the end of the page. What stands before the
element can be chosen, so that it might hold the same text once more; what stands behind it cannot.
-/

namespace TagCloud

variable {R : Type} {c : Config Float} {base directive cloud name : String} {items : List Item}

/-! ## Elements -/

/-- What a kind of page writes around its cloud: between the opening tag and the cloud, between the
cloud and the closing tag, and behind the closing tag. -/
structure Frame where
  before : String
  after : String
  rest : String

/-- The frame of a page around a cloud. -/
def Frame.page : Frame :=
  ⟨"\n", "  ", "\n</body>\n</html>\n"⟩

/-- The frame of the index page. -/
def Frame.index : Frame :=
  ⟨"\n    ", "\n  ", "\n  \n</body>\n</html>"⟩

/-- A page puts a cloud into an element. -/
def Frame.Holds (f : Frame) (name cloud page : String) : Prop :=
  ∃ head, page = head ++ "<" ++ name ++ " class=\"cloud\">" ++ f.before ++ cloud ++ f.after ++ "</"
    ++ name ++ ">" ++ f.rest

/-- A page puts a cloud into one element only. -/
theorem Frame.Holds.not_both {f : Frame} {page : String} (hlist : f.Holds "ul" cloud page) :
    ¬ f.Holds "p" cloud page := by
  obtain ⟨head, rfl⟩ := hlist
  rintro ⟨head', hpage⟩
  have hends := congrArg String.toList hpage
  simp only [String.toList_append] at hends
  -- What follows the names in the closing tags is the same on both pages.
  have hnames := congrArg List.getLast? (List.append_cancel_right (List.append_cancel_right hends))
  simp only [List.getLast?_append] at hnames
  exact absurd hnames (by simp)

theorem holds_renderPage (style : Style) (text : PageText) (cloud : String) :
    Frame.page.Holds style.wrapper cloud (renderPage style text cloud) := by
  have hpage : ∃ head, renderPage style text cloud = head ++ "  <" ++ style.wrapper
      ++ " class=\"cloud\">\n" ++ cloud ++ "  </" ++ style.wrapper ++ ">\n"
      ++ "</body>\n</html>\n" := ⟨_, rfl⟩
  obtain ⟨head, hpage⟩ := hpage
  refine ⟨head ++ "  ", ?_⟩
  rw [hpage, ← String.toList_inj]
  simp [Frame.page]

theorem holds_indexPage (directive : String) (style : Style) (cloud : String) :
    Frame.index.Holds (if style = .para then "p" else "ul") cloud
      (Site.indexPage directive style cloud) := by
  generalize hname : (if style = .para then "p" else "ul") = name
  have hpage : ∃ head, Site.indexPage directive style cloud
      = head ++ Site.framed style cloud ++ "</body>\n</html>" := ⟨_, rfl⟩
  obtain ⟨head, hpage⟩ := hpage
  refine ⟨head ++ "  \n  ", ?_⟩
  rw [hpage, Site.framed, hname, ← String.toList_inj]
  simp [Frame.index]

/-- The page around a cloud asks whether its style is that of a list. -/
theorem holds_renderPage_iff {style : Style} {text : PageText} :
    Frame.page.Holds "ul" cloud (renderPage style text cloud) ↔ style = .list := by
  have hholds := holds_renderPage style text cloud
  cases style with
  | list => exact iff_of_true hholds rfl
  | para => exact iff_of_false (fun hlist => hlist.not_both hholds) (by simp)
  | other name => exact iff_of_false (fun hlist => hlist.not_both hholds) (by simp)

/-- The index page asks whether the style is that of a paragraph. -/
theorem holds_indexPage_iff {style : Style} :
    Frame.index.Holds "ul" cloud (Site.indexPage directive style cloud) ↔ style ≠ .para := by
  have hholds := holds_indexPage directive style cloud
  by_cases hstyle : style = .para
  · rw [if_pos hstyle] at hholds
    exact iff_of_false (fun hlist => hlist.not_both hholds) (not_not.2 hstyle)
  · rw [if_neg hstyle] at hholds
    exact iff_of_true hholds hstyle

/-! ## Items -/

/-- The line of an item is wrapped as an item of a list, with nothing between it and the next. -/
def Item.IsListed (c : Config R) (base : String) (item : Item) (line : String) : Prop :=
  line = "<li>" ++ anchor c base item ++ "</li>\n"

/-- The line of an item is its anchor, without wrappers. -/
def Item.IsBare (c : Config R) (base : String) (item : Item) (line : String) : Prop :=
  ∃ separator, line = anchor c base item ++ separator ++ "\n"

/-- All lines of a cloud are wrapped as items of a list. -/
def Listed (c : Config R) (base : String) (items : List Item) : Prop :=
  List.Forall₂ (Item.IsListed c base) items (itemLines c base items)

/-- No line of a cloud has wrappers. -/
def Bare (c : Config R) (base : String) (items : List Item) : Prop :=
  List.Forall₂ (Item.IsBare c base) items (itemLines c base items)

theorem exists_toList_anchor (c : Config R) (base : String) (item : Item) :
    ∃ rest, (anchor c base item).toList = '<' :: 'a' :: rest := by
  rw [anchor_eq_written, Markup.written, Markup.opening_eq]
  exact ⟨_, rfl⟩

theorem Item.IsBare.not_isListed {c : Config R} {item : Item} {line : String}
    (hbare : item.IsBare c base line) : ¬ item.IsListed c base line := by
  obtain ⟨separator, rfl⟩ := hbare
  obtain ⟨rest, hrest⟩ := exists_toList_anchor c base item
  intro hlisted
  have hlines := congrArg String.toList hlisted
  simp [hrest] at hlines

/-- What holds of all lines that items can have holds of the lines of a cloud. -/
theorem forall₂_itemLines {c : Config R} {P : Item → String → Prop}
    (h : ∀ item more, P item (item.line c base more)) (items : List Item) :
    List.Forall₂ P items (itemLines c base items) := by
  rw [itemLines_eq_map_zipIdx, List.forall₂_map_right_iff, List.forall₂_iff_get]
  refine ⟨by simp, fun i hi hi' => ?_⟩
  simpa using h _ _

theorem Config.Coherent.listed {c : Config R} (hc : c.Coherent) (hstyle : c.style = .list)
    (items : List Item) : Listed c base items := by
  refine forall₂_itemLines (fun item more => ?_) items
  rcases hc.wrapping with ⟨-, hbefore, hafter, hseparator⟩ | ⟨hpara, -⟩
  · have hend : listTagAfter ++ "\n" = "</li>\n" := rfl
    rw [Item.IsListed, Item.line, hbefore, hafter, hseparator, ite_self, String.append_empty,
      String.append_assoc, hend, listTagBefore]
  · exact absurd (hstyle.symm.trans hpara) (by simp)

theorem Config.Coherent.bare {c : Config R} (hc : c.Coherent) (hstyle : c.style ≠ .list)
    (items : List Item) : Bare c base items := by
  refine forall₂_itemLines (fun item more => ?_) items
  rcases hc.wrapping with ⟨hlist, -⟩ | ⟨-, hbefore, hafter⟩
  · exact absurd hlist hstyle
  · refine ⟨if more then c.separator else "", ?_⟩
    rw [Item.line, hbefore, hafter, String.empty_append, String.append_empty]

/-- The lines of a cloud are wrapped when its style is that of a list, and only then if there are
any. -/
theorem Config.Coherent.listed_iff {c : Config R} (hc : c.Coherent) (hsome : items ≠ []) :
    Listed c base items ↔ c.style = .list := by
  refine ⟨fun hlisted => ?_, fun hstyle => hc.listed hstyle items⟩
  by_contra hstyle
  have hbare : Bare c base items := hc.bare hstyle items
  rw [Listed, List.forall₂_iff_get] at hlisted
  rw [Bare, List.forall₂_iff_get] at hbare
  have hpos : 0 < items.length := List.length_pos_iff.2 hsome
  exact (hbare.2 0 hpos (hbare.1 ▸ hpos)).not_isListed (hlisted.2 0 hpos (hlisted.1 ▸ hpos))

/-! ## Pages -/

/-- A cloud and the pages around it agree: it is put into a list element exactly when all its lines
are wrapped as items of a list, and otherwise none of them is and it is put into a paragraph. -/
structure FramedAlike (c : Config R) (base directive cloud : String) (items : List Item) :
    Prop where
  page : ∀ text, Listed c base items
    ↔ Frame.page.Holds "ul" cloud (renderPage c.style text cloud)
  index : Listed c base items
    ↔ Frame.index.Holds "ul" cloud (Site.indexPage directive c.style cloud)
  otherwise : ¬ Listed c base items → Bare c base items
    ∧ (∀ text, Frame.page.Holds "p" cloud (renderPage c.style text cloud))
    ∧ Frame.index.Holds "p" cloud (Site.indexPage directive c.style cloud)

theorem Config.Coherent.framedAlike {c : Config R} (hc : c.Coherent) (hsome : items ≠ []) :
    FramedAlike c base directive cloud items := by
  have hlisted : Listed c base items ↔ c.style = .list := hc.listed_iff hsome
  have hstyles : c.style = .list ↔ c.style ≠ .para := by
    rcases hc.wrapping with ⟨hlist, -⟩ | ⟨hpara, -⟩
    · simp [hlist]
    · simp [hpara]
  refine ⟨fun text => hlisted.trans holds_renderPage_iff.symm,
    (hlisted.trans hstyles).trans holds_indexPage_iff.symm, fun hnot => ?_⟩
  rw [hlisted] at hnot
  have hpara : c.style = .para := not_not.1 (hstyles.not.1 hnot)
  have hpage : c.style.wrapper = "p" := by
    rw [hpara]
    rfl
  have hindex : (if c.style = .para then "p" else "ul") = "p" := if_pos hpara
  refine ⟨hc.bare hnot items, fun text => ?_, ?_⟩
  · exact hpage ▸ holds_renderPage c.style text cloud
  · exact hindex ▸ holds_indexPage directive c.style cloud

/-- The index page shows the cloud of its directive on a page of the directive's style. -/
theorem Site.exists_of_showIndex {fresh : Generator} {tree : File.Tree} {here : File.Location}
    {typed : Option String} {page : String}
    (hc : Directive.parse (typed.getD Site.usualDirective) = .ok c)
    (hpage : Site.showIndex fresh tree here typed = .page page) :
    ∃ tags cloud later,
      renderDirective (typed.getD Site.usualDirective) tags Site.usualTagDir (.generator fresh)
          = .ok (cloud, later)
        ∧ page = Site.indexPage (typed.getD Site.usualDirective) c.style cloud := by
  rw [Site.showIndex_eq] at hpage
  split at hpage
  · next html hsteps =>
      obtain ⟨tags, c', cloud, later, -, hc', hcloud, rfl⟩ := Site.indexSteps_eq_ok.1 hsteps
      obtain rfl := Except.ok.inj (hc.symm.trans hc')
      exact ⟨tags, cloud, later, hcloud, (Site.Answer.page.inj hpage).symm⟩
  · exact absurd hpage (by simp)

/-- Every cloud of a directive agrees with the pages around it, and the index page is one of
these. -/
structure Config.FramesClouds (c : Config Float) (directive : String) : Prop where
  clouds : ∀ tags base source cloud later,
    renderDirective directive tags base source = .ok (cloud, later) →
      ∃ items, cloud = String.join (itemLines c base items)
        ∧ (items ≠ [] → FramedAlike c base directive cloud items)
  index : ∀ fresh tree here typed page, typed.getD Site.usualDirective = directive →
    Site.showIndex fresh tree here typed = .page page →
      ∃ tags cloud later,
        renderDirective directive tags Site.usualTagDir (.generator fresh) = .ok (cloud, later)
          ∧ page = Site.indexPage directive c.style cloud

/-- The configuration of a directive comes from a draft that passes its check, it is coherent, and
so are its clouds with the pages around them. -/
theorem Directive.parse_framesClouds (hc : Directive.parse directive = .ok c) :
    (∃ d : Draft Float, Directive.draft directive = .ok d ∧ d.IsNatural ∧ d.check = .ok c)
      ∧ c.Coherent ∧ c.FramesClouds directive := by
  have hcoherent := Directive.coherent_of_parse hc
  refine ⟨Directive.exists_draft_of_parse hc, hcoherent, ?_, ?_⟩
  · intro tags base source cloud later hcloud
    obtain ⟨c', tallies, labels, hc', -, -, hitems⟩ := renderDirective_eq_ok.1 hcloud
    obtain rfl := Except.ok.inj (hc.symm.trans hc')
    obtain ⟨items, hjoin, -⟩ := renderItems_eq_ok hitems
    exact ⟨items, hjoin, fun hsome => hcoherent.framedAlike hsome⟩
  · rintro fresh tree here typed page rfl hpage
    exact Site.exists_of_showIndex hc hpage

theorem Directive.parse_framesClouds_para :
    ∃ c : Config Float, Directive.parse "style: para" = .ok c ∧ c.style = .para
      ∧ (∃ d : Draft Float, Directive.draft "style: para" = .ok d ∧ d.IsNatural ∧ d.check = .ok c)
      ∧ c.Coherent ∧ c.FramesClouds "style: para" := by
  obtain ⟨c, hc, hstyle⟩ : ∃ c : Config Float,
      Directive.parse "style: para" = .ok c ∧ c.style = .para := by
    have hsplit : Directive.split "style: para" = [("style", "para")] := by decide +kernel
    rw [Directive.parse, hsplit]
    exact ⟨_, rfl, rfl⟩
  exact ⟨c, hc, hstyle, Directive.parse_framesClouds hc⟩

end TagCloud
