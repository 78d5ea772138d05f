import Mathlib.Data.List.Forall2
import Mathlib.Data.List.Induction
import Mathlib.Data.List.Nodup
import Mathlib.Data.List.Perm.Subperm
import TagCloud.Cloud
import TagCloud.Proofs.Outcome

/-!
# Which tallies a cloud shows

Weighing leaves out the tallies below the threshold, and ordering may cut the labels to a limit, at
one of two places and after one of several sorts. Whatever the mode, nothing is shown twice and
nothing is made up: the labels of a cloud are labels of the tallies that reach the threshold, each
occurrence at most once, and there are as many of them as the limit and the tallies allow.

Two tallies may have the same name and the same count, so that nothing in a label tells them apart.
An occurrence is therefore a tally with its place in the list, and what is said about labels is said
about lists of occurrences: one list is a part of another when it is a rearrangement of some of its
members, which is the relation `<+~`. Sorting does not look at places, so the labels are first shown
to be a part of those that were weighed, and the places are recovered from that.
-/

namespace TagCloud

open scoped List

/-- How many of `n` things are shown under a limit. -/
def shownCount (limit n : Nat) : Nat :=
  if limit = 0 then n else min limit n

/-- The tallies that reach the threshold, each with its place. -/
def occurrences (threshold : Int) (tallies : List Tally) : List (Tally × Nat) :=
  tallies.zipIdx.filter fun o => threshold ≤ o.1.count

theorem nodup_occurrences (threshold : Int) (tallies : List Tally) :
    (occurrences threshold tallies).Nodup :=
  (List.Nodup.of_map Prod.snd (by
    rw [List.zipIdx_map_snd]
    exact List.nodup_range')).filter _

theorem map_fst_occurrences (threshold : Int) (tallies : List Tally) :
    (occurrences threshold tallies).map Prod.fst = qualifying threshold tallies := by
  have h : (fun o : Tally × Nat => decide (threshold ≤ o.1.count))
      = (fun t : Tally => decide (threshold ≤ t.count)) ∘ Prod.fst := rfl
  rw [occurrences, h, ← List.filter_map, List.zipIdx_map_fst, qualifying]

/-! ## Drawing -/

namespace Generator

theorem shuffle?_perm {i : Nat} {places drawn : Array Nat} {g later : Generator}
    (h : shuffle? i places g = some (drawn, later)) : drawn.toList ~ places.toList := by
  induction i generalizing places g with
  | zero =>
      simp only [shuffle?, Option.some.injEq, Prod.mk.injEq] at h
      rw [h.1]
  | succ i ih =>
      simp only [shuffle?, Option.bind_eq_bind, Option.bind_eq_some_iff] at h
      obtain ⟨⟨j, g'⟩, -, hrest⟩ := h
      refine (ih hrest).trans ?_
      rw [Array.swapIfInBounds]
      split
      · split
        · exact (Array.swap_perm _ _).toList
        · exact List.Perm.refl _
      · exact List.Perm.refl _

/-- What is drawn is a rearrangement of the numbers below `n`. -/
theorem permutation?_perm {n : Nat} {places : List Nat} {g later : Generator}
    (h : g.permutation? n = some (places, later)) : places ~ List.range n := by
  simp only [permutation?, Option.bind_eq_bind, Option.bind_eq_some_iff, Option.some.injEq,
    Option.pure_def, Prod.mk.injEq] at h
  obtain ⟨⟨drawn, g'⟩, hdrawn, rfl, -⟩ := h
  simpa using shuffle?_perm hdrawn

end Generator

/-! ## Ordering -/

theorem atPlaces_range {α : Type} (labels : List α) :
    atPlaces labels (List.range labels.length) = labels := by
  induction labels using List.reverseRecOn with
  | nil => rfl
  | append_singleton front last ih =>
      have hfront : atPlaces (front ++ [last]) (List.range front.length)
          = atPlaces front (List.range front.length) := by
        unfold atPlaces
        refine List.filterMap_congr fun i hi => ?_
        rw [List.getElem?_append_left (List.mem_range.1 hi)]
      rw [List.length_append, List.length_singleton, List.range_succ]
      rw [ih] at hfront
      unfold atPlaces at hfront ⊢
      rw [List.filterMap_append, hfront]
      simp

theorem atPlaces_perm {α : Type} {labels : List α} {places : List Nat}
    (h : places ~ List.range labels.length) : atPlaces labels places ~ labels := by
  have hperm : atPlaces labels places ~ atPlaces labels (List.range labels.length) :=
    h.filterMap _
  rwa [atPlaces_range] at hperm

theorem length_upTo {α : Type} (limit : Nat) (labels : List α) :
    (upTo limit labels).length = shownCount limit labels.length := by
  unfold upTo shownCount
  rcases Nat.eq_zero_or_pos limit with rfl | hpos
  · rfl
  · rw [if_pos hpos, if_neg (Nat.ne_of_gt hpos), List.length_take]

theorem upTo_subperm {α : Type} (limit : Nat) (labels : List α) : upTo limit labels <+~ labels := by
  unfold upTo
  split
  · exact (List.take_sublist _ _).subperm
  · exact List.Subperm.refl _

section

variable {R W : Type} [Weighable W]

theorem lightestFirst_perm (labels : List (Label W)) : lightestFirst labels ~ labels :=
  List.mergeSort_perm _ _

theorem heaviestFirst_perm (labels : List (Label W)) : heaviestFirst labels ~ labels :=
  List.mergeSort_perm _ _

omit [Weighable W] in
theorem byName_perm (order : Direction) (labels : List (Label W)) :
    byName order labels ~ labels := by
  unfold byName
  split
  · exact List.mergeSort_perm _ _
  · exact List.mergeSort_perm _ _

/-- An order that is not random rearranges the labels that the limit keeps, and the limit keeps the
heaviest ones. -/
theorem arrange_perm (c : Config R) (labels : List (Label W)) :
    arrange c labels
      ~ (if 0 < c.limit then (heaviestFirst labels).take c.limit else labels) := by
  unfold arrange
  generalize (if 0 < c.limit then (heaviestFirst labels).take c.limit else labels) = kept
  simp only []
  split
  · split
    · exact lightestFirst_perm _
    · split
      · exact heaviestFirst_perm _
      · exact List.Perm.refl _
  · exact byName_perm _ _

/-- The labels of a cloud are a part of the labels that were weighed, as large as the limit
allows. -/
theorem sortLabels_subperm {c : Config R} {source later : Source} {labels shown : List (Label W)}
    (h : sortLabels c source labels = .ok (shown, later)) :
    shown <+~ labels ∧ shown.length = shownCount c.limit labels.length := by
  have harrange : ∀ ls : List (Label W), ls = arrange c labels →
      ls <+~ labels ∧ ls.length = shownCount c.limit labels.length := by
    rintro ls rfl
    have hperm := arrange_perm c labels
    rw [shownCount]
    rcases Nat.eq_zero_or_pos c.limit with hzero | hpos
    · rw [if_neg (by omega)] at hperm
      rw [if_pos hzero]
      exact ⟨hperm.subperm, hperm.length_eq⟩
    · rw [if_pos hpos] at hperm
      rw [if_neg (by omega)]
      refine ⟨hperm.subperm.trans ?_, ?_⟩
      · exact (List.take_sublist _ _).subperm.trans (heaviestFirst_perm _).subperm
      · rw [hperm.length_eq, List.length_take, (heaviestFirst_perm _).length_eq]
  unfold sortLabels at h
  split at h
  · split at h
    · exact absurd h (by simp)
    · next g =>
        split at h
        · exact absurd h (by simp)
        · next places g' hdrawn =>
            simp only [Except.ok.injEq, Prod.mk.injEq] at h
            obtain ⟨rfl, -⟩ := h
            have hperm := atPlaces_perm (Generator.permutation?_perm hdrawn)
            refine ⟨(upTo_subperm _ _).trans hperm.subperm, ?_⟩
            rw [length_upTo, hperm.length_eq]
  · simp only [Except.ok.injEq, Prod.mk.injEq] at h
    exact harrange shown h.1.symm

end

/-! ## Weighing -/

section

variable {R : Type} [Magnitude R]

theorem length_spread (logs : List R) : (spread logs).length = logs.length := by
  cases logs with
  | nil => rfl
  | cons x xs =>
      simp only [spread]
      split
      · rw [List.length_map]
      · rw [List.length_map]

/-- The label of an occurrence with a weight. -/
def Tally.label (o : Tally × Nat) (weight : R) : Label R :=
  ⟨o.1.name, weight⟩

omit [Magnitude R] in
theorem map_zip_occurrences (threshold : Int) (tallies : List Tally) (weights : List R) :
    ((occurrences threshold tallies).zip weights).map (fun p => Tally.label p.1 p.2)
      = ((qualifying threshold tallies).zip weights).map fun p => ⟨p.1.name, p.2⟩ := by
  rw [← map_fst_occurrences, List.zip_map_left, List.map_map]
  rfl

/-- Every tally that reaches the threshold gets one label with its name, and there are no others. -/
theorem weigh_eq_zip {threshold : Int} {tallies : List Tally} {labels : List (Label R)}
    (h : weigh threshold tallies = .ok labels) :
    ∃ weights : List R, weights.length = (occurrences threshold tallies).length ∧
      labels = ((occurrences threshold tallies).zip weights).map fun p => Tally.label p.1 p.2 := by
  simp only [weigh, bind_eq_ok, pure_eq_ok] at h
  obtain ⟨logs, hlogs, rfl⟩ := h
  refine ⟨spread logs, ?_, ?_⟩
  · rw [length_spread, length_of_mapM_ok hlogs, ← map_fst_occurrences, List.length_map]
  · rw [map_zip_occurrences]

end

/-- A part of a list of images is the list of the images of a part. -/
theorem exists_subperm_of_subperm_map {α β : Type} {f : α → β} {xs : List α} {ys : List β}
    (h : ys <+~ xs.map f) : ∃ zs, zs <+~ xs ∧ ys = zs.map f := by
  obtain ⟨ordered, hperm, hsub⟩ := h
  obtain ⟨kept, hkept, rfl⟩ := List.sublist_map_iff.1 hsub
  have hrel : List.Forall₂ (fun y x => y = f x) (kept.map f) kept := by
    rw [List.forall₂_map_left_iff, List.forall₂_same]
    exact fun _ _ => rfl
  obtain ⟨zs, hzs, hzsperm⟩ := List.perm_comp_forall₂ hperm.symm hrel
  refine ⟨zs, hzsperm.subperm.trans hkept.subperm, ?_⟩
  rw [← List.forall₂_eq_eq_eq, List.forall₂_map_right_iff]
  exact hzs

theorem mem_zip_map {α β γ : Type} {f : α × β → γ} {xs : List α} {ys : List β} {p : α × β}
    (h : p ∈ xs.zip ys) : (p.1, f p) ∈ xs.zip ((xs.zip ys).map f) := by
  obtain ⟨i, hi, rfl⟩ := List.mem_iff_getElem.1 h
  rw [List.length_zip] at hi
  refine List.mem_iff_getElem.2 ⟨i, ?_, ?_⟩
  · rw [List.length_zip, List.length_map, List.length_zip]
    omega
  · rw [List.getElem_zip, List.getElem_map, List.getElem_zip]

/-! ## Building -/

/-- The occurrences behind the labels of a cloud: each label is one that an occurrence was given
when it was weighed. -/
theorem buildCloud_occurrences {R : Type} [Magnitude R] {c : Config R} {source later : Source}
    {tallies : List Tally} {labels : List (Label R)}
    (h : buildCloud c source tallies = .ok (labels, later)) :
    ∃ weighed kept, weigh c.threshold tallies = .ok weighed ∧
      kept <+~ occurrences c.threshold tallies ∧
      kept.length = shownCount c.limit (occurrences c.threshold tallies).length ∧
      List.Forall₂
        (fun o label => label.name = o.1.name
          ∧ (o, label) ∈ (occurrences c.threshold tallies).zip weighed)
        kept labels := by
  unfold buildCloud at h
  split at h
  · exact absurd h (by simp)
  · next weighed hweigh =>
      obtain ⟨hsub, hcount⟩ := sortLabels_subperm h
      obtain ⟨weights, hlength, hzip⟩ := weigh_eq_zip hweigh
      obtain ⟨pairs, hpairs, rfl⟩ := exists_subperm_of_subperm_map (hzip ▸ hsub)
      have hfirst : ((occurrences c.threshold tallies).zip weights).map Prod.fst
          = occurrences c.threshold tallies := List.map_fst_zip (by omega)
      refine ⟨weighed, pairs.map Prod.fst, hweigh, ?_, ?_, ?_⟩
      · obtain ⟨ordered, hperm, hordered⟩ := hpairs
        rw [← hfirst]
        exact ⟨ordered.map Prod.fst, hperm.map _, hordered.map _⟩
      · rw [List.length_map] at hcount ⊢
        rw [hcount, hzip, List.length_map, ← List.length_map (f := Prod.fst), hfirst]
      · rw [List.forall₂_map_left_iff, List.forall₂_map_right_iff, List.forall₂_same]
        intro p hp
        refine ⟨rfl, ?_⟩
        rw [hzip]
        exact mem_zip_map (hpairs.subset hp)

end TagCloud
