import TagCloud.Proofs.Markup.ReadBack

/-!
# The steps of a cloud

The command line, the site and the templates put a cloud together step by step, each in its own
order and with its own answer to what is wrong. Where the library gives a cloud, every step has a
value, and the steps are the same everywhere.

Between a configuration and the tallies on one side and the markup on the other three things can go
wrong, and no others: a count is too large to be weighed, no permutation is drawn, or a size is
asked for with more places than numbers are written with. Only tallies that reach the threshold
matter, and without any of them nothing goes wrong but the drawing.
-/

namespace TagCloud

section

variable {directive base html : String} {tags : Tags} {source later : Source}

/-- The cloud of a directive is the markup of the labels that its tallies give. -/
theorem renderDirective_eq_ok :
    renderDirective directive tags base source = .ok (html, later)
      ↔ ∃ (c : Config Float) (tallies : List Tally) (labels : List (Label Float)),
          Directive.parse directive = .ok c ∧ tags.tallies = .ok tallies
            ∧ buildCloud c source tallies = .ok (labels, later)
            ∧ renderItems c base labels = .ok html := by
  unfold renderDirective renderCloud
  simp only [bind_eq_ok, mapError_eq_ok, pure_eq_ok, Prod.mk.injEq, Prod.exists]
  constructor
  · rintro ⟨c, hc, tallies, htallies, labels, s, hbuild, text, htext, rfl, rfl⟩
    exact ⟨c, tallies, labels, hc, htallies, hbuild, htext⟩
  · rintro ⟨c, tallies, labels, hc, htallies, hbuild, htext⟩
    exact ⟨c, hc, tallies, htallies, labels, later, hbuild, html, htext, rfl, rfl⟩

end

/-! ## What goes wrong -/

variable {c : Config Float} {base : String} {g : Generator} {tallies : List Tally}
  {labels : List (Label Float)}

/-- Something goes wrong between tallies and markup. -/
inductive Unshown (c : Config Float) (g : Generator) (tallies : List Tally) : Prop
  | count {t : Tally} (ht : t ∈ qualifying c.threshold tallies)
      (hcount : Number.ofInt? (max t.count 1) = none) : Unshown c g tallies
  | draws (hsort : c.sort = .rand)
      (hdraws : g.permutation? (qualifying c.threshold tallies).length = none) :
      Unshown c g tallies
  | places (hsome : qualifying c.threshold tallies ≠ []) (hplaces : placesLimit < c.precision) :
      Unshown c g tallies

/-! ## The labels -/

theorem exists_log_eq_error {t : Tally} :
    (∃ e, (t.log : Except TooLarge Float) = .error e) ↔ Number.ofInt? (max t.count 1) = none := by
  have hofInt : Magnitude.ofInt? (R := Float) (max t.count 1) = Number.ofInt? (max t.count 1) := rfl
  rw [Tally.log, Magnitude.ofInt, hofInt]
  cases Number.ofInt? (max t.count 1) with
  | none => exact iff_of_true ⟨_, rfl⟩ rfl
  | some x => exact iff_of_false (fun h => absurd h.choose_spec (by simp [Except.map])) (by simp)

/-- Weighing fails on a count that is too large, if it qualifies. -/
theorem exists_weigh_eq_error {threshold : Int} :
    (∃ e, (weigh threshold tallies : Except TooLarge (List (Label Float))) = .error e)
      ↔ ∃ t ∈ qualifying threshold tallies, Number.ofInt? (max t.count 1) = none := by
  simp only [weigh, bind_eq_error, pure, Except.pure, reduceCtorEq, and_false, exists_false,
    or_false, exists_mapM_eq_error, exists_log_eq_error]

theorem length_of_weigh {threshold : Int} (h : weigh threshold tallies = .ok labels) :
    labels.length = (qualifying threshold tallies).length := by
  simp only [weigh, bind_eq_ok, pure_eq_ok] at h
  obtain ⟨logs, hlogs, rfl⟩ := h
  simp [length_spread, length_of_mapM_ok hlogs]

theorem exists_sortLabels_eq_error :
    (∃ e, sortLabels c (.generator g) labels = .error e)
      ↔ c.sort = .rand ∧ g.permutation? labels.length = none := by
  unfold sortLabels
  cases hsort : c.sort with
  | rand =>
      simp only
      cases hdraws : g.permutation? labels.length with
      | none => simp
      | some drawn => simp
  | alpha => simp
  | freq => simp
  | other name => simp

/-- No labels are had when the weighing fails or no permutation is drawn. -/
theorem exists_buildCloud_eq_error :
    (∃ e, buildCloud c (.generator g) tallies = .error e)
      ↔ (∃ t ∈ qualifying c.threshold tallies, Number.ofInt? (max t.count 1) = none)
        ∨ c.sort = .rand ∧ g.permutation? (qualifying c.threshold tallies).length = none := by
  rw [← exists_weigh_eq_error, buildCloud]
  cases hweigh : (weigh c.threshold tallies : Except TooLarge (List (Label Float))) with
  | error e => exact iff_of_true ⟨_, rfl⟩ (Or.inl ⟨e, rfl⟩)
  | ok labels =>
      rw [← length_of_weigh hweigh]
      simpa using exists_sortLabels_eq_error

/-- Labels are shown as soon as tallies qualify, since no limit is below one. -/
theorem ne_nil_of_buildCloud {later : Source}
    (h : buildCloud c (.generator g) tallies = .ok (labels, later)) :
    labels ≠ [] ↔ qualifying c.threshold tallies ≠ [] := by
  unfold buildCloud at h
  split at h
  · exact absurd h (by simp)
  · next weighed hweigh =>
      have hlength := (sortLabels_subperm h).2
      rw [length_of_weigh hweigh, shownCount] at hlength
      rw [← List.length_pos_iff, ← List.length_pos_iff, hlength]
      split
      · exact Iff.rfl
      · omega

/-! ## The markup -/

theorem exists_sizeText_eq_error (h : placesLimit < c.precision) (weight : Quantity Float) :
    ∃ e, sizeText c weight = .error e := by
  unfold sizeText
  split
  · exact ⟨_, rfl⟩
  · next size _ =>
      unfold Quantity.written
      split
      · exact ⟨_, rfl⟩
      · split
        · exact ⟨_, rfl⟩
        · exact ⟨_, rfl⟩

/-- The labels of a directive cannot be written with too many places, and else they can. -/
theorem Config.Coherent.exists_renderItems_eq_error (hc : c.Coherent) :
    (∃ e, renderItems c base labels = .error e) ↔ labels ≠ [] ∧ placesLimit < c.precision := by
  constructor
  · rintro ⟨e, he⟩
    by_contra hnot
    have hwritten : labels = [] ∨ c.precision ≤ placesLimit := by
      rw [not_and_or, not_not, Nat.not_lt] at hnot
      exact hnot
    obtain ⟨html, hhtml⟩ : ∃ html, renderItems c base labels = .ok html :=
      hc.renderItems_ok hwritten
    exact absurd (he.symm.trans hhtml) (by simp)
  · rintro ⟨hsome, hplaces⟩
    obtain ⟨label, hlabel⟩ := List.exists_mem_of_ne_nil labels hsome
    have hitems : ∃ e, (labels.map fun label =>
        (⟨label.name, .real label.weight⟩ : Label (Quantity Float))).mapM (·.item c)
          = .error e := by
      refine exists_mapM_eq_error.2 ⟨_, List.mem_map_of_mem hlabel, ?_⟩
      obtain ⟨e, he⟩ := exists_sizeText_eq_error hplaces (.real label.weight)
      exact ⟨e, by rw [Label.item, he]; rfl⟩
    obtain ⟨e, he⟩ := hitems
    refine ⟨e, ?_⟩
    rw [renderItems, renderQuantities, he]
    rfl

/-- A cloud that a directive asks for is shown unless one of the three goes wrong. -/
theorem Config.Coherent.unshown_iff (hc : c.Coherent) (base : String) :
    ((∃ e, buildCloud c (.generator g) tallies = .error e)
        ∨ ∃ built, buildCloud c (.generator g) tallies = .ok built
          ∧ ∃ e, renderItems c base built.1 = .error e)
      ↔ Unshown c g tallies := by
  have hbuilding := @exists_buildCloud_eq_error c g tallies
  cases hbuild : buildCloud c (.generator g) tallies with
  | error e =>
      refine iff_of_true (Or.inl ⟨e, rfl⟩) ?_
      rcases hbuilding.1 ⟨e, hbuild⟩ with ⟨t, ht, hcount⟩ | ⟨hsort, hdraws⟩
      · exact .count ht hcount
      · exact .draws hsort hdraws
  | ok built =>
      obtain ⟨labels, later⟩ := built
      have hbuilt : ¬ ∃ e, buildCloud c (.generator g) tallies = .error e := by
        rw [hbuild]
        simp
      rw [hbuilding, not_or] at hbuilt
      have hwritten := @Config.Coherent.exists_renderItems_eq_error c base labels hc
      rw [ne_nil_of_buildCloud hbuild] at hwritten
      constructor
      · rintro (⟨e, he⟩ | ⟨built, heq, he⟩)
        · exact absurd he (by simp)
        · obtain rfl := Except.ok.inj heq
          obtain ⟨hsome, hplaces⟩ := hwritten.1 he
          exact .places hsome hplaces
      · rintro (⟨ht, hcount⟩ | ⟨hsort, hdraws⟩ | ⟨hsome, hplaces⟩)
        · exact absurd ⟨_, ht, hcount⟩ hbuilt.1
        · exact absurd ⟨hsort, hdraws⟩ hbuilt.2
        · exact Or.inr ⟨_, rfl, hwritten.2 ⟨hsome, hplaces⟩⟩

end TagCloud
