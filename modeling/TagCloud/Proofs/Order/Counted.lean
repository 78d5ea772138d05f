import TagCloud.Proofs.Order.Emitted
import TagCloud.Proofs.Order.Limit

/-!
# Clouds by frequency

A cloud that is ordered by frequency could be made without any logarithm: tallies that are too rare
are left out, the others are sorted by their counts, and the limit cuts off the rarest. This module
writes that down as a program of its own and shows that it emits what the cloud does, which puts the
counts on a scale, sorts by the places on it, and has no scale where all logarithms are the same.

Upwards, what is left after the cut is sorted a second time. The list that this sort finds has its
ties in the order in which the tallies came, so they end up in that order, as if the cut had
been made on the list itself.
-/

namespace TagCloud

open scoped List

/-! ## Ordering occurrences by their counts -/

/-- Occurrences by their counts, the most frequent first. -/
def mostFrequentFirst (origins : List (Tally × Nat)) : List (Tally × Nat) :=
  origins.mergeSort fun o q => decide (q.1.count ≤ o.1.count)

/-- The one occurrence is rarer than the other, or as rare and not behind it. -/
def Rarer (o q : Tally × Nat) : Prop :=
  o.1.count < q.1.count ∨ (o.1.count = q.1.count ∧ o.2 ≤ q.2)

instance : DecidableRel Rarer :=
  fun o q => inferInstanceAs
    (Decidable (o.1.count < q.1.count ∨ (o.1.count = q.1.count ∧ o.2 ≤ q.2)))

/-- Occurrences by their counts, the rarest first, and those of one count by their places. -/
def rarestFirst (origins : List (Tally × Nat)) : List (Tally × Nat) :=
  origins.mergeSort fun o q => decide (Rarer o q)

/-- The most frequent occurrences up to a limit, of those that reach a threshold. -/
def mostFrequent (threshold : Int) (limit : Nat) (tallies : List Tally) : List (Tally × Nat) :=
  upTo limit (mostFrequentFirst (occurrences threshold tallies))

/-- What a cloud by frequency shows, by counts alone. -/
def byFrequency {R : Type} (c : Config R) (tallies : List Tally) : List (Tally × Nat) :=
  if c.order = .asc then rarestFirst (mostFrequent c.threshold c.limit tallies)
  else mostFrequent c.threshold c.limit tallies

theorem pairwise_rarestFirst (origins : List (Tally × Nat)) :
    (rarestFirst origins).Pairwise Rarer := by
  refine (List.pairwise_mergeSort ?_ ?_ origins).imp fun h => of_decide_eq_true h
  · intro o q p hoq hqp
    rw [decide_eq_true_eq, Rarer] at hoq hqp ⊢
    omega
  · intro o q
    rw [Bool.or_eq_true, decide_eq_true_eq, decide_eq_true_eq, Rarer, Rarer]
    omega

/-- There is one way only to put the rarest of some occurrences first. -/
theorem eq_rarestFirst {shown origins : List (Tally × Nat)} {tallies : List Tally}
    (hsub : origins ⊆ tallies.zipIdx) (hperm : shown ~ origins) (hshown : shown.Pairwise Rarer) :
    shown = rarestFirst origins := by
  have hplaces : (tallies.zipIdx.map Prod.snd).Nodup := by
    rw [List.zipIdx_map_snd]
    exact List.nodup_range'
  refine (hperm.trans (List.mergeSort_perm _ _).symm).eq_of_pairwise ?_ hshown
    (pairwise_rarestFirst origins)
  intro o q ho hq hoq hqo
  have hplace : o.2 = q.2 := by
    rcases hoq with hlt | ⟨heq, hle⟩
    · rcases hqo with hgt | ⟨heq, -⟩
      · omega
      · omega
    · rcases hqo with hgt | ⟨-, hge⟩
      · omega
      · omega
  exact List.inj_on_of_nodup_map hplaces (hsub (hperm.mem_iff.1 ho))
    (hsub (List.mem_mergeSort.1 hq)) hplace

/-! ## Counts in the place of weights -/

theorem map_load_countLabel (origins : List (Tally × Nat)) :
    (origins.map countLabel).map Label.load = origins := by
  rw [List.map_map]
  exact List.map_id' origins

theorem heaviestFirst_countLabel (origins : List (Tally × Nat)) :
    heaviestFirst (origins.map countLabel) = (mostFrequentFirst origins).map countLabel := by
  refine (List.map_mergeSort fun o _ q _ => ?_).symm
  show decide (q.1.count ≤ o.1.count) = !decide (o.1.count < q.1.count)
  rw [← decide_not, decide_eq_decide]
  exact not_lt.symm

theorem map_load_upTo_heaviestFirst (limit : Nat) (origins : List (Tally × Nat)) :
    (upTo limit (heaviestFirst (origins.map countLabel))).map Label.load
      = upTo limit (mostFrequentFirst origins) := by
  rw [map_upTo, heaviestFirst_countLabel, map_load_countLabel]

variable {R : Type} {c : Config R}

/-- The limit keeps the most frequent occurrences. -/
theorem map_load_arrange_perm (c : Config R) (tallies : List Tally) :
    (arrange c ((occurrences c.threshold tallies).map countLabel)).map Label.load
      ~ mostFrequent c.threshold c.limit tallies := by
  refine ((arrange_perm c _).map Label.load).trans ?_
  by_cases hlimit : 0 < c.limit
  · rw [if_pos hlimit, mostFrequent, ← map_load_upTo_heaviestFirst, upTo, if_pos hlimit]
  · rw [if_neg hlimit, map_load_countLabel, mostFrequent, upTo, if_neg hlimit]
    exact (List.mergeSort_perm _ _).symm

theorem mostFrequent_subset (threshold : Int) (limit : Nat) (tallies : List Tally) :
    mostFrequent threshold limit tallies ⊆ tallies.zipIdx := by
  intro o ho
  have hmem := List.mem_mergeSort.1 ((upTo_subperm _ _).subset ho)
  exact (List.mem_filter.1 hmem).1

/-- By counts alone, a cloud by frequency emits the most frequent occurrences. -/
theorem map_load_arrange (hsort : c.sort = .freq) (tallies : List Tally) :
    (arrange c ((occurrences c.threshold tallies).map countLabel)).map Label.load
      = byFrequency c tallies := by
  unfold byFrequency
  split
  · next horder =>
      refine eq_rarestFirst (mostFrequent_subset _ _ tallies) (map_load_arrange_perm c tallies) ?_
      have hpairwise := pairwise_arrange (comparable_countLabel _)
        (pairwise_countLabel c.threshold tallies) c
      rw [Precedes, hsort] at hpairwise
      simp only [if_pos horder] at hpairwise
      rw [List.pairwise_map]
      refine hpairwise.imp_of_mem fun {a b} ha hb hab => ?_
      have hcount : ∀ a ∈ arrange c ((occurrences c.threshold tallies).map countLabel),
          a.weight.weight = a.load.1.count := by
        intro a ha
        obtain ⟨o, -, rfl⟩ := exists_of_mem_arrange ha
        rfl
      have hlighter : ∀ x y : Label (Carried Int (Tally × Nat)),
          lighterBy id x y = decide (x.weight.weight < y.weight.weight) := fun _ _ => rfl
      unfold ThenBy at hab
      rw [hlighter, hlighter, hcount a ha, hcount b hb, decide_eq_true_eq, decide_eq_false_iff_not]
        at hab
      unfold Rarer
      omega
  · next horder =>
      rw [arrange_heaviest hsort horder, map_load_upTo_heaviestFirst, mostFrequent]

/-- A cloud by frequency emits what the counts of its occurrences tell, and its labels are those of
the occurrences. -/
theorem emitted_byFrequency {R : Type} [Magnitude R] [Exact R] {c : Config R} (source : Source)
    (tallies : List Tally) (hlog : LogIncreasing R) (hsort : c.sort = .freq)
    (hone : 1 ≤ c.threshold) :
    emitted c source tallies = .ok (byFrequency c tallies)
      ∧ buildCloud c source tallies
          = .ok ((byFrequency c tallies).map fun o =>
              ⟨o.1.name, countWeight c.threshold tallies o.1.count⟩, source) := by
  have hrand : c.sort ≠ .rand := by simp [hsort]
  have hemitted : emitted c source tallies = .ok (byFrequency c tallies) := by
    rw [emitted_eq_counts source hlog hrand hone, map_load_arrange hsort]
  exact ⟨hemitted, buildCloud_of_emitted hrand (exact_fits _ _) hemitted⟩

/-- Tallies of which two pairs have one count, and not side by side. -/
def crossed : List Tally :=
  [⟨"b", 2⟩, ⟨"a", 3⟩, ⟨"c", 2⟩, ⟨"d", 1⟩, ⟨"a", 3⟩]

/-- The cut goes between the two tallies that occur twice, whichever way the cloud runs. -/
theorem emitted_byFrequency_crossed :
    emitted { Config.initial Unrounded with limit := 3, sort := .freq, order := .desc }
        (.foreign "int") crossed = .ok [(⟨"a", 3⟩, 1), (⟨"a", 3⟩, 4), (⟨"b", 2⟩, 0)]
      ∧ emitted { Config.initial Unrounded with limit := 3, sort := .freq, order := .asc }
          (.foreign "int") crossed = .ok [(⟨"b", 2⟩, 0), (⟨"a", 3⟩, 1), (⟨"a", 3⟩, 4)] := by
  have hemitted : ∀ order,
      emitted { Config.initial Unrounded with limit := 3, sort := .freq, order } (.foreign "int")
          crossed
        = .ok (byFrequency { Config.initial Unrounded with limit := 3, sort := .freq, order }
            crossed) :=
    fun order => (emitted_byFrequency (.foreign "int") crossed logIncreasing_unrounded rfl
      (Nat.le_refl 1)).1
  rw [hemitted, hemitted]
  exact ⟨by cbv, by cbv⟩

end TagCloud
