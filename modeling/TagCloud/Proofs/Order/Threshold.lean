import TagCloud.Proofs.Order.Emitted

/-!
# Raising the threshold

A higher threshold leaves out the rarest tallies, and the weights of all others change with that:
the scale begins at another count, and it may be no scale any more. What the cloud emits is the same
all the same, less what was left out. The counts of what is left out are below all other counts, so
among the heaviest occurrences they are the last ones, and leaving them out goes in any order with
sorting and with the cut.
-/

namespace TagCloud

open Rounded

section

variable {W : Type} [Weighable W] {labels : List (Label W)} {r : Label W → Label W → Prop}
  {p : Label W → Bool}

variable (hw : Comparable (lighterBy id) labels) (hr : labels.Pairwise r)
  (hasymm : ∀ a ∈ labels, ∀ b ∈ labels, r a b → ¬ r b a)

include hw hasymm in
theorem keptOrder_asymm (limit : Nat) {a b : Label W} (ha : a ∈ labels) (hb : b ∈ labels)
    (hab : keptOrder limit r a b) : ¬ keptOrder limit r b a := by
  unfold keptOrder at hab ⊢
  split at hab
  · next hlimit =>
      rw [if_pos hlimit]
      exact hasymm a ha b hb hab
  · next hlimit =>
      rw [if_neg hlimit]
      exact ThenBy.asymm (hw.reverse.asymm a ha b hb) (hasymm a ha b hb) hab

variable (hp : ∀ a ∈ labels, ∀ b ∈ labels, lighterBy id a b = false → p b = true → p a = true)

include hw hr hasymm hp

theorem filter_keptLabels (limit : Nat) :
    (keptLabels limit labels).filter p = keptLabels limit (labels.filter p) := by
  by_cases hlimit : limit = 0
  · rw [hlimit, keptLabels_zero, keptLabels_zero]
  have hfront : (heaviestFirst labels).Pairwise fun a b => p b = true → p a = true := by
    refine (pairwise_heaviestFirst hw hr).imp_of_mem fun {a b} ha hb hab => ?_
    have ha := (heaviestFirst_perm labels).mem_iff.1 ha
    have hb := (heaviestFirst_perm labels).mem_iff.1 hb
    refine hp a ha b hb ?_
    rcases hab with hheavier | ⟨hnot, -⟩
    · exact hw.asymm b hb a ha hheavier
    · exact hnot
  rw [keptLabels_pos hlimit, keptLabels_pos hlimit, filter_take hfront]
  exact congrArg (List.take limit) (filter_mergeSort hw.reverse hr hasymm p)

/-- Where no label that is left out is as heavy as one that is left in, leaving out goes in any
order with arranging. -/
theorem filter_arrange {E : Type} (c : Config E) :
    (arrange c labels).filter p = arrange c (labels.filter p) := by
  have hsub := keptLabels_subset c.limit labels
  have hkept := pairwise_keptLabels hw hr c.limit
  have hkeptw := hw.subset hsub
  have hkeptasymm : ∀ a ∈ keptLabels c.limit labels, ∀ b ∈ keptLabels c.limit labels,
      keptOrder c.limit r a b → ¬ keptOrder c.limit r b a :=
    fun a ha b hb => keptOrder_asymm hw hasymm c.limit (hsub ha) (hsub hb)
  have hfilter := filter_keptLabels hw hr hasymm hp c.limit
  have hname : (byName c.order (keptLabels c.limit labels)).filter p
      = byName c.order (keptLabels c.limit (labels.filter p)) := by
    rw [byName_eq, byName_eq, ← hfilter]
    exact filter_mergeSort (comparable_namedBy _ _ _) hkept hkeptasymm p
  have hlight : (lightestFirst (keptLabels c.limit labels)).filter p
      = lightestFirst (keptLabels c.limit (labels.filter p)) := by
    rw [← hfilter]
    exact filter_mergeSort hkeptw hkept hkeptasymm p
  have hheavy : (heaviestFirst (keptLabels c.limit labels)).filter p
      = heaviestFirst (keptLabels c.limit (labels.filter p)) := by
    rw [← hfilter]
    exact filter_mergeSort hkeptw.reverse hkept hkeptasymm p
  rw [arrange_eq, arrange_eq]
  cases c.sort with
  | alpha => exact hname
  | rand => exact hname
  | other name => exact hname
  | freq =>
      simp only []
      by_cases hasc : c.order = .asc
      · rw [if_pos hasc, if_pos hasc]
        exact hlight
      · rw [if_neg hasc, if_neg hasc]
        by_cases hlimit : c.limit = 0
        · rw [if_pos hlimit, if_pos hlimit]
          exact hheavy
        · rw [if_neg hlimit, if_neg hlimit]
          exact hfilter

end

/-! ## Occurrences -/

theorem filter_occurrences {low high : Int} (hle : low ≤ high) (tallies : List Tally) :
    (occurrences low tallies).filter (fun o => high ≤ o.1.count) = occurrences high tallies := by
  unfold occurrences
  rw [List.filter_filter]
  refine List.filter_congr fun o _ => ?_
  rw [← Bool.decide_and, decide_eq_decide]
  omega

/-- Leaving out the occurrences that do not reach a threshold goes in any order with arranging. -/
theorem filter_arrange_counts {E : Type} (c : Config E) {low high : Int} (hle : low ≤ high)
    (tallies : List Tally) :
    ((arrange c ((occurrences low tallies).map countLabel)).map Label.load).filter
        (fun o => high ≤ o.1.count)
      = (arrange c ((occurrences high tallies).map countLabel)).map Label.load := by
  have hreach : ∀ a ∈ (occurrences low tallies).map countLabel,
      ∀ b ∈ (occurrences low tallies).map countLabel, lighterBy id a b = false →
        decide (high ≤ b.load.1.count) = true → decide (high ≤ a.load.1.count) = true := by
    intro a ha b hb hnot hb'
    obtain ⟨o, -, rfl⟩ := List.mem_map.1 ha
    obtain ⟨q, -, rfl⟩ := List.mem_map.1 hb
    have hcount : ¬ o.1.count < q.1.count := of_decide_eq_false hnot
    have hreached : high ≤ q.1.count := of_decide_eq_true hb'
    exact decide_eq_true (show high ≤ o.1.count by omega)
  have harrange := filter_arrange (comparable_countLabel _) (pairwise_countLabel low tallies)
    (fun _ _ _ _ => Nat.lt_asymm) hreach c
  rw [List.filter_map, ← filter_occurrences hle]
  refine congrArg (List.map Label.load) (harrange.trans ?_)
  rw [List.filter_map]
  rfl

/-- A higher threshold only removes occurrences from what a cloud emits: those that do not reach
it. -/
theorem emitted_threshold {R : Type} [Magnitude R] [Exact R] {c : Config R} {threshold : Nat}
    (source : Source) (tallies : List Tally) (hlog : LogIncreasing R) (hsort : c.sort ≠ .rand)
    (hone : 1 ≤ c.threshold) (hle : c.threshold ≤ threshold) :
    ∃ origins, emitted c source tallies = .ok origins
      ∧ emitted { c with threshold } source tallies
          = .ok (origins.filter fun o => threshold ≤ o.1.count) := by
  have hraised : emitted { c with threshold } source tallies
      = .ok ((arrange c ((occurrences threshold tallies).map countLabel)).map Label.load) :=
    emitted_eq_counts (c := { c with threshold }) source hlog hsort (Nat.le_trans hone hle) tallies
  refine ⟨_, emitted_eq_counts source hlog hsort hone tallies, ?_⟩
  rw [hraised, filter_arrange_counts c (by exact_mod_cast hle)]

/-- Tallies by their counts, the first four of them by their names as well. -/
def repeated : List Tally :=
  [⟨"a", 3⟩, ⟨"a", 3⟩, ⟨"b", 2⟩, ⟨"c", 2⟩, ⟨"b", 1⟩]

/-- At first the limit cuts off the rarest tally. When the threshold is raised to three, those that
are left are no more than the limit, and all of them weigh a half. -/
theorem emitted_threshold_repeated :
    emitted { Config.initial Unrounded with limit := 4 } (.foreign "int") repeated
        = .ok [(⟨"a", 3⟩, 0), (⟨"a", 3⟩, 1), (⟨"b", 2⟩, 2), (⟨"c", 2⟩, 3)]
      ∧ emitted { Config.initial Unrounded with limit := 4, threshold := 3 } (.foreign "int") repeated
        = .ok [(⟨"a", 3⟩, 0), (⟨"a", 3⟩, 1)] := by
  let c : Config Unrounded := { Config.initial Unrounded with limit := 4 }
  have hheaviest : heaviestFirst ((occurrences 1 repeated).map countLabel)
      = (occurrences 1 repeated).map countLabel := List.mergeSort_of_pairwise (by decide +kernel)
  have hnamed : byName .asc (((occurrences 1 repeated).map countLabel).take 4)
      = ((occurrences 1 repeated).map countLabel).take 4 :=
    List.mergeSort_of_pairwise (by decide +kernel)
  have hcounts : emitted c (.foreign "int") repeated
      = .ok [(⟨"a", 3⟩, 0), (⟨"a", 3⟩, 1), (⟨"b", 2⟩, 2), (⟨"c", 2⟩, 3)] := by
    rw [emitted_eq_counts (.foreign "int") logIncreasing_unrounded (by decide) (by decide),
      arrange_eq]
    show Except.ok ((byName .asc ((heaviestFirst
      ((occurrences 1 repeated).map countLabel)).take 4)).map Label.load) = _
    rw [hheaviest, hnamed]
    rfl
  obtain ⟨origins, hemitted, hraised⟩ : ∃ origins, emitted c (.foreign "int") repeated = .ok origins
      ∧ emitted { c with threshold := 3 } (.foreign "int") repeated
        = .ok (origins.filter fun o => 3 ≤ o.1.count) :=
    emitted_threshold (.foreign "int") repeated logIncreasing_unrounded (by decide) (by decide)
      (by decide)
  obtain rfl := Except.ok.inj (hcounts.symm.trans hemitted)
  exact ⟨hcounts, hraised⟩

end TagCloud
