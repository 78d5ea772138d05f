import TagCloud.Proofs.Order.Arranged
import TagCloud.Proofs.Weight.Weighed

/-!
# The order in which tags are listed

The tags of a cloud are given one after the other, but a cloud is about how often they occur. Where
they stand in the list can show in one way only, through sorts that leave alike labels as they came;
so it does not show where nothing is alike that is sorted. By name, labels are never alike when
their names are different, and the weights matter only at the cut: it has to go between two
different weights, or leave nothing out. By weight, no two weights may be the same.

Before that, weights are the same whatever the order of the list, because the least and the greatest
logarithm are. Equal numbers have to be one and the same number for that, which zeros of either sign
are not.
-/

namespace TagCloud

open Rounded
open scoped List

variable {R : Type} [Magnitude R] [Rounded R]

/-! ## The same weights -/

theorem placeOf_congr {logs logs' : List R} (h : Spannable {x | x ∈ logs})
    (hone : ∀ a ∈ logs, ∀ b ∈ logs, value a = value b → a = b) (hperm : logs' ~ logs) :
    placeOf logs' = placeOf logs := by
  have hmem : ∀ y, y ∈ logs' → y ∈ logs := fun y hy => hperm.mem_iff.1 hy
  cases logs' with
  | nil =>
      rw [List.nil_perm] at hperm
      rw [hperm]
  | cons x' xs' =>
      cases logs with
      | nil => exact absurd hperm.length_eq (by simp)
      | cons x xs =>
          have hends := ends_cons h.finite
          have hends' := ends_cons fun y hy => h.finite y (hmem y hy)
          have hlow : leastOf x' xs' = leastOf x xs := by
            refine hone _ (hmem _ hends'.low_mem) _ hends.low_mem (le_antisymm ?_ ?_)
            · exact hends'.low_le _ (hperm.mem_iff.2 hends.low_mem)
            · exact hends.low_le _ (hmem _ hends'.low_mem)
          have hhigh : greatestOf x' xs' = greatestOf x xs := by
            refine hone _ (hmem _ hends'.high_mem) _ hends.high_mem (le_antisymm ?_ ?_)
            · exact hends.le_high _ (hmem _ hends'.high_mem)
            · exact hends'.le_high _ (hperm.mem_iff.2 hends.high_mem)
          funext y
          unfold placeOf
          simp only []
          rw [hlow, hhigh]

/-- The logarithms of some numbers are finite and not too far apart, and equal ones are one and the
same number. -/
structure LogDetermined (xs : Set R) : Prop where
  spannable : Spannable (Magnitude.log '' xs)
  eq_of_value_eq : ∀ x ∈ xs, ∀ y ∈ xs,
    value (Magnitude.log x) = value (Magnitude.log y) → Magnitude.log x = Magnitude.log y

variable {threshold : Int} {tallies tallies' : List Tally}

theorem qualifying_perm (hperm : tallies' ~ tallies) (threshold : Int) :
    qualifying threshold tallies' ~ qualifying threshold tallies :=
  hperm.filter _

omit [Rounded R] in
theorem Fits.of_perm (h : Fits R threshold tallies) (hperm : tallies' ~ tallies) :
    Fits R threshold tallies' :=
  fun t ht hcount => h t (hperm.mem_iff.1 ht) hcount

theorem countWeight_congr (hfits : Fits R threshold tallies)
    (hlog : LogDetermined (weighed threshold tallies : Set R)) (hperm : tallies' ~ tallies) :
    (countWeight threshold tallies' : Int → R) = countWeight threshold tallies := by
  have hlogs : (qualifyingLogs threshold tallies' : List R) ~ qualifyingLogs threshold tallies :=
    (qualifying_perm hperm threshold).map _
  have hone : ∀ a ∈ (qualifyingLogs threshold tallies : List R),
      ∀ b ∈ (qualifyingLogs threshold tallies : List R), value a = value b → a = b := by
    intro a ha b hb heq
    obtain ⟨s, hs, rfl⟩ := mem_qualifyingLogs.1 ha
    obtain ⟨t, ht, rfl⟩ := mem_qualifyingLogs.1 hb
    obtain ⟨x, hx, -, hxlog⟩ := hfits.countLog_mem hs
    obtain ⟨y, hy, -, hylog⟩ := hfits.countLog_mem ht
    rw [hxlog, hylog] at heq ⊢
    exact hlog.eq_of_value_eq x hx y hy heq
  have hplace := placeOf_congr (spannable_qualifyingLogs hfits hlog.spannable) hone hlogs
  funext n
  rw [countWeight, hplace, countWeight]

/-- Tallies that are listed in another order are weighed the same. -/
theorem weigh_perm (hfits : Fits R threshold tallies)
    (hlog : LogDetermined (weighed threshold tallies : Set R)) (hperm : tallies' ~ tallies) :
    ∃ labels labels' : List (Label R), weigh threshold tallies = .ok labels
      ∧ weigh threshold tallies' = .ok labels' ∧ labels' ~ labels := by
  refine ⟨_, _, weigh_eq_map hfits, weigh_eq_map (hfits.of_perm hperm), ?_⟩
  rw [countWeight_congr hfits hlog hperm]
  exact (qualifying_perm hperm threshold).map _

/-! ## The same order -/

theorem comparable_of_finite {labels : List (Label R)} (h : ∀ a ∈ labels, IsFinite a.weight) :
    Comparable (lighterBy id) labels where
  asymm a ha b hb hab := by
    have hlt := (less_iff (h a ha) (h b hb)).1 hab
    exact Bool.eq_false_iff.2 fun hba => lt_asymm hlt ((less_iff (h b hb) (h a ha)).1 hba)
  between a ha b hb c hc hac := by
    have hlt := (less_iff (h a ha) (h c hc)).1 hac
    rcases lt_or_ge (value a.weight) (value b.weight) with hab | hba
    · exact Or.inl ((less_iff (h a ha) (h b hb)).2 hab)
    · exact Or.inr ((less_iff (h b hb) (h c hc)).2 (hba.trans_lt hlt))

section

variable {E W : Type} [Weighable W] {c : Config E} {labels labels' : List (Label W)}

theorem keptLabels_perm (hw : Comparable (lighterBy id) labels) (hperm : labels' ~ labels)
    {limit : Nat}
    (hcut : limit = 0 ∨ labels.length ≤ limit ∨
      ∃ a b, (heaviestFirst labels)[limit - 1]? = some a ∧ (heaviestFirst labels)[limit]? = some b
        ∧ heavierBy id a b = true) :
    keptLabels limit labels' ~ keptLabels limit labels := by
  by_cases hzero : limit = 0
  · rw [hzero, keptLabels_zero, keptLabels_zero]
    exact hperm
  rw [keptLabels_pos hzero, keptLabels_pos hzero]
  rcases hcut with hlimit | hall | ⟨a, b, ha, hb, hab⟩
  · exact absurd hlimit hzero
  · have hle : (heaviestFirst labels).length ≤ limit := by
      rw [(heaviestFirst_perm labels).length_eq]
      exact hall
    have hle' : (heaviestFirst labels').length ≤ limit := by
      rw [(heaviestFirst_perm labels').length_eq, hperm.length_eq]
      exact hall
    rw [List.take_of_length_le hle, List.take_of_length_le hle']
    exact ((heaviestFirst_perm labels').trans hperm).trans (heaviestFirst_perm labels).symm
  · obtain ⟨k, rfl⟩ := Nat.exists_eq_succ_of_ne_zero hzero
    exact take_mergeSort_perm hw.reverse hperm ha hb hab

theorem nodup_names_keptLabels (hnames : (labels.map (·.name)).Nodup) (limit : Nat) :
    ((keptLabels limit labels).map (·.name)).Nodup := by
  unfold keptLabels
  split
  · have hsorted := (((heaviestFirst_perm labels).map (·.name)).nodup_iff).2 hnames
    exact hsorted.sublist ((List.take_sublist _ _).map _)
  · exact hnames

theorem arrange_congr_of_names (hsort : c.sort ≠ .freq) (hnames : (labels.map (·.name)).Nodup)
    (hkept : keptLabels c.limit labels' ~ keptLabels c.limit labels) :
    arrange c labels' = arrange c labels := by
  have hapart : (keptLabels c.limit labels).Pairwise
      fun a b => namedBy id c.order a b = true ∨ namedBy id c.order b a = true := by
    refine (List.pairwise_map.1 (nodup_names_keptLabels hnames c.limit)).imp fun {a b} hne => ?_
    exact namedBy_or_of_ne hne
  have hname : byName c.order (keptLabels c.limit labels')
      = byName c.order (keptLabels c.limit labels) := by
    rw [byName_eq, byName_eq]
    exact mergeSort_congr_of_perm (comparable_namedBy _ _ _) hapart hkept
  rw [arrange_eq, arrange_eq]
  cases h : c.sort with
  | alpha => exact hname
  | rand => exact hname
  | other name => exact hname
  | freq => exact absurd h hsort

theorem arrange_congr_of_weights (hsort : c.sort = .freq) (hw : Comparable (lighterBy id) labels)
    (hapart : labels.Pairwise fun a b => lighterBy id a b = true ∨ lighterBy id b a = true)
    (hperm : labels' ~ labels) : arrange c labels' = arrange c labels := by
  have hheaviest : heaviestFirst labels' = heaviestFirst labels :=
    mergeSort_congr_of_perm hw.reverse (hapart.imp fun hab => hab.symm) hperm
  have hlightest : lightestFirst labels' = lightestFirst labels :=
    mergeSort_congr_of_perm hw hapart hperm
  rw [arrange_eq, arrange_eq, hsort]
  by_cases hlimit : c.limit = 0
  · simp only [hlimit, keptLabels_zero, hlightest, hheaviest, ↓reduceIte]
  · simp only [keptLabels_pos hlimit, hheaviest]

end

/-- The configuration leaves no two labels in the order in which they came. -/
inductive Settled (c : Config R) (labels : List (Label R)) : Prop where
  | uncut : c.sort ≠ .rand → c.sort ≠ .freq → c.limit = 0 ∨ labels.length ≤ c.limit →
    Settled c labels
  | cut (a b : Label R) : c.sort ≠ .rand → c.sort ≠ .freq →
    (heaviestFirst labels)[c.limit - 1]? = some a → (heaviestFirst labels)[c.limit]? = some b →
    value b.weight < value a.weight → Settled c labels
  | weighed : c.sort = .freq →
    (labels.Pairwise fun a b => value a.weight ≠ value b.weight) → Settled c labels

theorem Settled.arrange_congr {c : Config R} {labels labels' : List (Label R)}
    (h : Settled c labels) (hfinite : ∀ a ∈ labels, IsFinite a.weight)
    (hnames : (labels.map (·.name)).Nodup) (hperm : labels' ~ labels) :
    c.sort ≠ .rand ∧ arrange c labels' = arrange c labels := by
  have hw := comparable_of_finite hfinite
  cases h with
  | uncut hrand hfreq hlimit =>
      have hkept := keptLabels_perm hw hperm (hlimit.imp_right fun hall => Or.inl hall)
      exact ⟨hrand, arrange_congr_of_names hfreq hnames hkept⟩
  | cut a b hrand hfreq ha hb hlt =>
      have hmem : ∀ l ∈ heaviestFirst labels, IsFinite l.weight :=
        fun l hl => hfinite l ((heaviestFirst_perm labels).mem_iff.1 hl)
      have hheavier : heavierBy id a b = true :=
        (less_iff (hmem b (List.mem_of_getElem? hb)) (hmem a (List.mem_of_getElem? ha))).2 hlt
      have hkept := keptLabels_perm hw hperm (Or.inr (Or.inr ⟨a, b, ha, hb, hheavier⟩))
      exact ⟨hrand, arrange_congr_of_names hfreq hnames hkept⟩
  | weighed hfreq hdiffer =>
      have hapart : labels.Pairwise
          fun a b => lighterBy id a b = true ∨ lighterBy id b a = true := by
        refine hdiffer.imp_of_mem fun {a b} ha hb hne => ?_
        rcases lt_or_gt_of_ne hne with hlt | hgt
        · exact Or.inl ((less_iff (hfinite a ha) (hfinite b hb)).2 hlt)
        · exact Or.inr ((less_iff (hfinite b hb) (hfinite a ha)).2 hgt)
      exact ⟨by simp [hfreq], arrange_congr_of_weights hfreq hw hapart hperm⟩

/-- Where names are different and the configuration settles the order of the labels, the markup is
the same in whatever order the tags are listed. -/
theorem renderCloud_perm {c : Config R} {tallies tallies' : List Tally} (base : String)
    (source : Source) (hperm : tallies' ~ tallies) (hnames : (tallies.map (·.name)).Nodup)
    (hfits : Fits R c.threshold tallies)
    (hlog : LogDetermined (weighed c.threshold tallies : Set R))
    (hsettled : ∀ labels, weigh c.threshold tallies = .ok labels → Settled c labels) :
    renderCloud c base source tallies' = renderCloud c base source tallies := by
  obtain ⟨labels, labels', hlabels, hlabels', hlisted⟩ := weigh_perm hfits hlog hperm
  have hshown := nodup_names_of_weigh hlabels hnames
  have hfinite := finite_of_weigh hfits hlog.spannable hlabels
  obtain ⟨hrand, harrange⟩ := (hsettled labels hlabels).arrange_congr hfinite hshown hlisted
  have hbuild : buildCloud c source tallies' = buildCloud c source tallies := by
    unfold buildCloud
    rw [hlabels, hlabels']
    simp only []
    rw [sortLabels_of_ne_rand hrand, sortLabels_of_ne_rand hrand, harrange]
  unfold renderCloud
  rw [hbuild]

theorem tabledLog_inj : ∀ x ∈ tabled, ∀ y ∈ tabled,
    Magnitude.less (tabledLog x) (tabledLog y) = false →
      Magnitude.less (tabledLog y) (tabledLog x) = false → tabledLog x = tabledLog y := by
  decide +kernel

theorem logDetermined_tabled {xs : Set Tabled} (hxs : ∀ x ∈ xs, x ∈ tabled) : LogDetermined xs where
  spannable := (logMonotone_tabled hxs).spannable
  eq_of_value_eq x hx y hy heq := by
    have hless : ∀ a ∈ xs, ∀ b ∈ xs, value (Magnitude.log a) = value (Magnitude.log b) →
        Magnitude.less (Magnitude.log a) (Magnitude.log b) = false := by
      intro a ha b hb hab
      rw [← Bool.not_eq_true, less_iff (finite_tabled hxs a ha).2 (finite_tabled hxs b hb).2]
      exact hab.not_lt
    exact tabledLog_inj x (hxs x hx) y (hxs y hy) (hless x hx y hy heq) (hless y hy x hx heq.symm)

/-- Tallies by their counts, of which the last two get one weight. -/
def ranked : List Tally :=
  [⟨"b", 100⟩, ⟨"c", 10⟩, ⟨"a", 1⟩, ⟨"d", 0⟩]

/-- What they are weighed to. -/
def rankedLabels : List (Label Tabled) :=
  [⟨"b", (1 : Float)⟩, ⟨"c", (0.5 : Float)⟩, ⟨"a", (0 : Float)⟩, ⟨"d", (0 : Float)⟩]

/-- A cut above the two of one weight. -/
theorem renderCloud_perm_ranked :
    renderCloud { Config.initial Tabled with threshold := 0, limit := 2 } "/t" (.foreign "int")
        [⟨"d", 0⟩, ⟨"c", 10⟩, ⟨"a", 1⟩, ⟨"b", 100⟩]
      = renderCloud { Config.initial Tabled with threshold := 0, limit := 2 } "/t" (.foreign "int")
          ranked := by
  have htabled : ∀ t ∈ qualifying 0 ranked, ∃ x ∈ tabled,
      (Magnitude.ofInt? (max t.count 1) : Option Float) = some x := by decide +kernel
  have hlabels : weigh 0 ranked = .ok rankedLabels := by decide +kernel
  have hsorted : heaviestFirst rankedLabels = rankedLabels :=
    List.mergeSort_of_pairwise (by decide +kernel)
  have hzero : (Number.Datum.ofFloat 0).IsFinite := by decide +kernel
  have hhalf : (Number.Datum.ofFloat 0.5).IsFinite := by decide +kernel
  have hless : Magnitude.less (0 : Float) 0.5 = true := by decide +kernel
  refine renderCloud_perm "/t" (.foreign "int") (by decide) (by decide) (fits_tabled htabled)
    (logDetermined_tabled fun _ => mem_tabled htabled _) fun labels h => ?_
  obtain rfl := Except.ok.inj (hlabels.symm.trans h)
  refine Settled.cut ⟨"c", (0.5 : Float)⟩ ⟨"a", (0 : Float)⟩ (by decide) (by decide) ?_ ?_ ?_
  · rw [hsorted]
    rfl
  · rw [hsorted]
    rfl
  · exact (less_iff (R := Tabled) hzero hhalf).1 hless

end TagCloud
