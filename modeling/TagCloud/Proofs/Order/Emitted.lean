import TagCloud.Proofs.Number.Real
import TagCloud.Proofs.Order.Arranged
import TagCloud.Proofs.Weight.Weighed

/-!
# The occurrences that a cloud emits

A label does not tell which of several tallies of the same name and count it stands for. The cloud
is therefore built once more with the occurrences for a load, and what it emits are the loads; under
the loads there is the cloud itself.

Without rounding and with a strictly increasing logarithm, weights compare exactly like the counts
that they come from, whatever scale they are put on, and also when all of them are a half. The
ordering looks at nothing but comparisons, so the counts themselves can take the place of the
weights, and no logarithm is left in what the cloud emits.
-/

namespace TagCloud

open Rounded

variable {R : Type} [Magnitude R]

/-- The labels with the occurrences that they were weighed from for a load. -/
def traced (labels : List (Label R)) (origins : List (Tally × Nat)) :
    List (Label (Carried R (Tally × Nat))) :=
  (labels.zip origins).map fun p => p.1.carry p.2

/-- The cloud whose labels carry the occurrences that they were weighed from. -/
def tracedCloud (c : Config R) (source : Source) (tallies : List Tally) :
    Except CloudError (List (Label (Carried R (Tally × Nat))) × Source) :=
  match weigh c.threshold tallies with
  | .error _ => .error .tooLarge
  | .ok labels => sortLabels c source (traced labels (occurrences c.threshold tallies))

/-- The occurrences that a cloud emits. -/
def emitted (c : Config R) (source : Source) (tallies : List Tally) :
    Except CloudError (List (Tally × Nat)) :=
  (tracedCloud c source tallies).map fun r => r.1.map Label.load

omit [Magnitude R] in
theorem map_bare_traced {labels : List (Label R)} {origins : List (Tally × Nat)}
    (h : labels.length ≤ origins.length) : (traced labels origins).map Label.bare = labels := by
  unfold traced
  rw [List.map_map]
  exact List.map_fst_zip h

/-- Under the loads of a traced cloud there is the cloud. -/
theorem buildCloud_eq_tracedCloud (c : Config R) (source : Source) (tallies : List Tally) :
    buildCloud c source tallies
      = (tracedCloud c source tallies).map fun r => (r.1.map Label.bare, r.2) := by
  unfold buildCloud tracedCloud
  cases hweigh : (weigh c.threshold tallies : Except TooLarge (List (Label R))) with
  | error e => rfl
  | ok labels =>
      have hlength : labels.length ≤ (occurrences c.threshold tallies).length := by
        obtain ⟨weights, hweights, hzip⟩ := weigh_eq_zip hweigh
        rw [hzip, List.length_map, List.length_zip]
        omega
      simp only []
      rw [map_sortLabels (Label.alike_bare _), map_bare_traced hlength]

/-! ## Counts in the place of weights -/

instance : Weighable Int where
  lighter a b := decide (a < b)

/-- An occurrence as a label that weighs what it counts. -/
def countLabel (o : Tally × Nat) : Label (Carried Int (Tally × Nat)) :=
  ⟨o.1.name, o.1.count, o⟩

/-- A traced label with the count of its occurrence for a weight. -/
def recount (label : Label (Carried R (Tally × Nat))) : Label (Carried Int (Tally × Nat)) :=
  ⟨label.name, label.load.1.count, label.load⟩

/-- An occurrence as the traced label that it is weighed to. -/
def weightLabel (threshold : Int) (tallies : List Tally) (o : Tally × Nat) :
    Label (Carried R (Tally × Nat)) :=
  ⟨o.1.name, countWeight threshold tallies o.1.count, o⟩

theorem recount_weightLabel (threshold : Int) (tallies : List Tally) :
    recount ∘ weightLabel (R := R) threshold tallies = countLabel := rfl

theorem comparable_countLabel (origins : List (Tally × Nat)) :
    Comparable (lighterBy id) (origins.map countLabel) :=
  comparable_of_linearOrder (fun a : Label (Carried Int (Tally × Nat)) => a.weight.weight) _

theorem pairwise_countLabel (threshold : Int) (tallies : List Tally) :
    ((occurrences threshold tallies).map countLabel).Pairwise
      fun a b => a.load.2 < b.load.2 := by
  rw [List.pairwise_map]
  exact (pairwise_zipIdx tallies).filter _

theorem fst_mem_qualifying {threshold : Int} {tallies : List Tally} {o : Tally × Nat}
    (h : o ∈ occurrences threshold tallies) : o.1 ∈ qualifying threshold tallies := by
  rw [← map_fst_occurrences]
  exact List.mem_map_of_mem h

theorem tracedCloud_eq_arrange {c : Config R} {tallies : List Tally} (source : Source)
    (hsort : c.sort ≠ .rand) (hfits : Fits R c.threshold tallies) :
    tracedCloud c source tallies
      = .ok (arrange c ((occurrences c.threshold tallies).map
          (weightLabel c.threshold tallies)), source) := by
  unfold tracedCloud
  rw [weigh_eq_map hfits]
  simp only []
  rw [sortLabels_of_ne_rand hsort, traced, ← map_fst_occurrences, List.map_map,
    ← List.map_prod_right_eq_zip, List.map_map]
  rfl

/-- The labels of a cloud are those that its occurrences are weighed to. -/
theorem buildCloud_of_emitted {c : Config R} {source : Source} {tallies : List Tally}
    {origins : List (Tally × Nat)} (hsort : c.sort ≠ .rand) (hfits : Fits R c.threshold tallies)
    (h : emitted c source tallies = .ok origins) :
    buildCloud c source tallies
      = .ok (origins.map fun o => (weightLabel c.threshold tallies o).bare, source) := by
  unfold emitted at h
  rw [buildCloud_eq_tracedCloud]
  rw [tracedCloud_eq_arrange source hsort hfits] at h ⊢
  obtain rfl := Except.ok.inj h
  have hload : ∀ a ∈ arrange c ((occurrences c.threshold tallies).map
      (weightLabel (R := R) c.threshold tallies)), weightLabel c.threshold tallies a.load = a := by
    intro a ha
    obtain ⟨o, -, rfl⟩ := exists_of_mem_arrange ha
    rfl
  simp only [Except.map, List.map_map]
  congr 2
  exact List.map_congr_left fun a ha => (congrArg Label.bare (hload a ha)).symm

/-- Where weights compare like counts, a cloud emits what the counts alone make it emit. -/
theorem emitted_eq_arrange {c : Config R} {tallies : List Tally} (source : Source)
    (hsort : c.sort ≠ .rand) (hfits : Fits R c.threshold tallies)
    (halike : ∀ s ∈ qualifying c.threshold tallies, ∀ t ∈ qualifying c.threshold tallies,
      Magnitude.less (countWeight c.threshold tallies s.count : R)
        (countWeight c.threshold tallies t.count) = decide (s.count < t.count)) :
    emitted c source tallies
      = .ok ((arrange c ((occurrences c.threshold tallies).map countLabel)).map Label.load) := by
  have hcounts : Label.Alike (recount (R := R)) ((occurrences c.threshold tallies).map
      (weightLabel (R := R) c.threshold tallies)) := by
    refine ⟨fun _ _ => rfl, fun a ha b hb => ?_⟩
    obtain ⟨o, ho, rfl⟩ := List.mem_map.1 ha
    obtain ⟨p, hp, rfl⟩ := List.mem_map.1 hb
    exact (halike _ (fst_mem_qualifying ho) _ (fst_mem_qualifying hp)).symm
  unfold emitted
  rw [tracedCloud_eq_arrange source hsort hfits, ← recount_weightLabel (R := R), ← List.map_map,
    ← map_arrange hcounts, List.map_map]
  rfl

/-! ## Numbers without rounding -/

variable [Exact R] {threshold : Int} {tallies : List Tally}

variable (R) in
/-- The logarithm increases strictly from one upwards. -/
def LogIncreasing : Prop :=
  ∀ x y : R, 1 ≤ value x → value x < value y →
    value (Magnitude.log x) < value (Magnitude.log y)

theorem logIncreasing_unrounded : LogIncreasing Unrounded :=
  fun _ _ hone hlt => Real.log_lt_log (zero_lt_one.trans_le hone) hlt

theorem exact_fits (threshold : Int) (tallies : List Tally) : Fits R threshold tallies := by
  intro t _ _
  obtain ⟨n, hn⟩ := Int.eq_ofNat_of_zero_le (show 0 ≤ max t.count 1 by omega)
  rw [hn]
  exact Exact.exists_ofInt n

theorem exact_spannable (xs : Set R) : Spannable xs where
  finite x _ := Exact.finite x
  inRange x _ y _ := by
    obtain ⟨n, hn⟩ := exists_nat_ge |value x - value y|
    obtain ⟨z, hz⟩ := Exact.exists_ofInt (R := R) n
    refine ⟨z, Exact.finite z, ?_⟩
    rw [(ofInt hz).2, Exact.nearest_eq]
    exact hn

theorem countLog_strictMono (hlog : LogIncreasing R) {m n : Int} (hm : 1 ≤ m) (hlt : m < n) :
    value (countLog m : R) < value (countLog n : R) := by
  obtain ⟨i, rfl⟩ := Int.eq_ofNat_of_zero_le (show 0 ≤ m by omega)
  obtain ⟨j, rfl⟩ := Int.eq_ofNat_of_zero_le (show 0 ≤ n by omega)
  obtain ⟨x, hx⟩ := Exact.exists_ofInt (R := R) i
  obtain ⟨y, hy⟩ := Exact.exists_ofInt (R := R) j
  have hxlog : countLog (i : Int) = Magnitude.log x := countLog_eq (by rw [max_eq_left hm, hx])
  have hylog : countLog (j : Int) = Magnitude.log y :=
    countLog_eq (by rw [max_eq_left (by omega), hy])
  rw [hxlog, hylog]
  refine hlog x y ?_ ?_
  · rw [(ofInt hx).2, Exact.nearest_eq]
    exact_mod_cast hm
  · rw [(ofInt hx).2, (ofInt hy).2, Exact.nearest_eq, Exact.nearest_eq]
    exact_mod_cast hlt

theorem countWeight_strictMono (hlog : LogIncreasing R) (hone : 1 ≤ threshold) {s t : Tally}
    (hs : s ∈ qualifying threshold tallies) (ht : t ∈ qualifying threshold tallies)
    (hlt : s.count < t.count) :
    value (countWeight threshold tallies s.count : R)
      < value (countWeight threshold tallies t.count : R) := by
  have hspan : Spannable {y : R | y ∈ qualifyingLogs threshold tallies} := exact_spannable _
  refine placeOf_strictMono hspan (mem_qualifyingLogs.2 ⟨s, hs, rfl⟩)
    (mem_qualifyingLogs.2 ⟨t, ht, rfl⟩) ?_
  have hcount := (mem_qualifying.1 hs).2
  exact countLog_strictMono hlog (by omega) hlt

/-- Weights compare like the counts that they come from. -/
theorem less_countWeight (hlog : LogIncreasing R) (hone : 1 ≤ threshold) {s t : Tally}
    (hs : s ∈ qualifying threshold tallies) (ht : t ∈ qualifying threshold tallies) :
    Magnitude.less (countWeight threshold tallies s.count : R)
      (countWeight threshold tallies t.count) = decide (s.count < t.count) := by
  rw [Bool.eq_iff_iff, less_iff (Exact.finite _) (Exact.finite _), decide_eq_true_eq]
  constructor
  · intro hless
    by_contra hge
    rcases lt_or_eq_of_le (not_lt.1 hge) with hgt | heq
    · exact lt_asymm hless (countWeight_strictMono hlog hone ht hs hgt)
    · rw [heq] at hless
      exact lt_irrefl _ hless
  · exact countWeight_strictMono hlog hone hs ht

/-- Without rounding, a cloud emits what the counts alone make it emit. -/
theorem emitted_eq_counts {c : Config R} (source : Source) (hlog : LogIncreasing R)
    (hsort : c.sort ≠ .rand) (hone : 1 ≤ c.threshold) (tallies : List Tally) :
    emitted c source tallies
      = .ok ((arrange c ((occurrences c.threshold tallies).map countLabel)).map Label.load) :=
  emitted_eq_arrange source hsort (exact_fits _ _) fun _ hs _ ht =>
    less_countWeight hlog (by exact_mod_cast hone) hs ht

end TagCloud
