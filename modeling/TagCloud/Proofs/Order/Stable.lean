import Mathlib

/-!
# Stable sorting

All ordering in this library is stable sorting by a comparison that says which of two things is
strictly below. Such a sort refines the order in which the things came: what the comparison tells
apart is put in its order, and what it does not tell apart stays as it was. So several sorts one
after the other put a list in the order in which the last comparison decides first, and the sorted
list is the only rearrangement that is in that order.

A comparison of numbers need not be lawful everywhere; it only has to be so on the members of the
list, which is what `Comparable` says. Sorting looks at nothing else.
-/

namespace TagCloud

open scoped List

variable {α : Type} {lt : α → α → Bool} {r : α → α → Prop} {xs ys : List α}

/-- On the members of a list, a comparison orders like numbers do: of two members not both are
below the other, and what lies between two members in this order lies above the one or below the
other. -/
structure Comparable (lt : α → α → Bool) (xs : List α) : Prop where
  asymm : ∀ a ∈ xs, ∀ b ∈ xs, lt a b = true → lt b a = false
  between : ∀ a ∈ xs, ∀ b ∈ xs, ∀ c ∈ xs, lt a c = true → lt a b = true ∨ lt b c = true

theorem Comparable.subset (h : Comparable lt xs) (hsub : ys ⊆ xs) : Comparable lt ys where
  asymm a ha b hb := h.asymm a (hsub ha) b (hsub hb)
  between a ha b hb c hc := h.between a (hsub ha) b (hsub hb) c (hsub hc)

/-- The order the other way round. -/
theorem Comparable.reverse (h : Comparable lt xs) : Comparable (fun a b => lt b a) xs where
  asymm a ha b hb := h.asymm b hb a ha
  between a ha b hb c hc hac := (h.between c hc b hb a ha hac).symm

theorem Comparable.of_map {β : Type} {f : β → α} {zs : List β} (h : Comparable lt (zs.map f)) :
    Comparable (fun a b => lt (f a) (f b)) zs where
  asymm _ ha _ hb := h.asymm _ (List.mem_map_of_mem ha) _ (List.mem_map_of_mem hb)
  between _ ha _ hb _ hc :=
    h.between _ (List.mem_map_of_mem ha) _ (List.mem_map_of_mem hb) _ (List.mem_map_of_mem hc)

/-- A linear order is comparable anywhere. -/
theorem comparable_of_linearOrder {β : Type} [LinearOrder β] (f : α → β) (xs : List α) :
    Comparable (fun a b => decide (f a < f b)) xs where
  asymm _ _ _ _ hab := decide_eq_false (not_lt_of_gt (of_decide_eq_true hab))
  between a _ b _ c _ hac := by
    have hlt := of_decide_eq_true hac
    rcases lt_or_ge (f a) (f b) with hab | hba
    · exact Or.inl (decide_eq_true hab)
    · exact Or.inr (decide_eq_true (lt_of_le_of_lt hba hlt))

/-- The order in which `lt` decides first and `r` decides between what `lt` does not tell apart. -/
def ThenBy (lt : α → α → Bool) (r : α → α → Prop) (a b : α) : Prop :=
  lt a b = true ∨ (lt b a = false ∧ r a b)

instance [DecidableRel r] : DecidableRel (ThenBy lt r) :=
  fun a b => inferInstanceAs (Decidable (lt a b = true ∨ (lt b a = false ∧ r a b)))

/-- Two things do not come one before the other both ways, as far as `lt` and `r` allow. -/
theorem ThenBy.asymm {a b : α} (hlt : lt a b = true → lt b a = false) (hr : r a b → ¬ r b a)
    (hab : ThenBy lt r a b) : ¬ ThenBy lt r b a := by
  rintro (hba | ⟨hnab, hba⟩)
  · rcases hab with hab | ⟨hnba, -⟩
    · exact absurd hba (by rw [hlt hab]; simp)
    · exact absurd hba (by rw [hnba]; simp)
  · rcases hab with hab | ⟨-, hab⟩
    · exact absurd hab (by rw [hnab]; simp)
    · exact hr hab hba

/-! ## The sorted list -/

section

variable {le : α → α → Bool}

theorem pairwise_zipIdx (xs : List α) : xs.zipIdx.Pairwise fun p q => p.2 < q.2 := by
  rw [← List.pairwise_map (f := Prod.snd) (R := (· < ·)), List.zipIdx_map_snd]
  exact List.pairwise_lt_range'

/-- What a sorted list tells of two members, one before the other. Where both are alike to the
comparison, stability leaves them as they were, and then they are related as all members were. -/
theorem pairwise_mergeSort_and (trans : ∀ a b c, le a b = true → le b c = true → le a c = true)
    (total : ∀ a b, (le a b || le b a) = true) (hr : xs.Pairwise r) :
    (xs.mergeSort le).Pairwise fun a b => le a b = true ∧ (le b a = true → r a b) := by
  -- stability says that sorting with the places as a last resort gives the same list
  rw [← List.mergeSort_zipIdx, List.pairwise_map]
  have hsorted := List.pairwise_mergeSort (List.zipIdxLE_trans trans)
    (List.zipIdxLE_total total) xs.zipIdx
  have hdistinct : (xs.zipIdx.mergeSort (List.zipIdxLE le)).Pairwise fun p q => p.2 ≠ q.2 :=
    (List.mergeSort_perm _ _).symm.pairwise ((pairwise_zipIdx xs).imp fun h => Nat.ne_of_lt h)
      fun h => h.symm
  refine List.Pairwise.imp_of_mem ?_ (hsorted.and hdistinct)
  rintro ⟨a, i⟩ ⟨b, j⟩ ha hb ⟨hle, hne⟩
  rw [List.mem_mergeSort, List.mem_zipIdx_iff_getElem?, List.getElem?_eq_some_iff] at ha hb
  obtain ⟨hi, ha⟩ := ha
  obtain ⟨hj, hb⟩ := hb
  simp only [List.zipIdxLE] at hle hi ha hj hb
  split at hle
  · next hab =>
      refine ⟨hab, fun hba => ?_⟩
      rw [if_pos hba, decide_eq_true_eq] at hle
      have hplaces := List.pairwise_iff_getElem.1 hr i j hi hj (Nat.lt_of_le_of_ne hle hne)
      rwa [ha, hb] at hplaces
  · exact absurd hle (by simp)

end

/-- A sort refines the order in which a list came. -/
theorem pairwise_mergeSort_thenBy (h : Comparable lt xs) (hr : xs.Pairwise r) :
    (xs.mergeSort fun a b => !lt b a).Pairwise (ThenBy lt r) := by
  -- the comparison is lawful on the members only, so they are sorted in their own type
  let le : {a // a ∈ xs} → {a // a ∈ xs} → Bool := fun a b => !lt b.1 a.1
  have hmap : (xs.attach.mergeSort le).map Subtype.val = xs.mergeSort fun a b => !lt b a := by
    rw [List.map_mergeSort (s := fun a b => !lt b a) fun _ _ _ _ => rfl,
      List.attach_map_subtype_val]
  have htrans : ∀ a b c, le a b = true → le b c = true → le a c = true := by
    intro a b c hab hbc
    rw [Bool.not_eq_true'] at hab hbc ⊢
    by_contra hca
    rcases h.between _ c.2 _ b.2 _ a.2 (Bool.not_eq_false _ ▸ hca) with hcb | hba
    · exact absurd hcb (by rw [hbc]; simp)
    · exact absurd hba (by rw [hab]; simp)
  have htotal : ∀ a b, (le a b || le b a) = true := by
    intro a b
    rw [Bool.or_eq_true, Bool.not_eq_true', Bool.not_eq_true']
    by_cases hba : lt b.1 a.1 = true
    · exact Or.inr (h.asymm _ b.2 _ a.2 hba)
    · exact Or.inl (Bool.not_eq_true _ ▸ hba)
  have hattach : xs.attach.Pairwise fun a b => r a.1 b.1 := by
    rw [← List.pairwise_map (f := Subtype.val) (R := r), List.attach_map_subtype_val]
    exact hr
  rw [← hmap, List.pairwise_map]
  refine (pairwise_mergeSort_and htrans htotal hattach).imp fun {a b} hab => ?_
  by_cases hlt : lt a.1 b.1 = true
  · exact Or.inl hlt
  · refine Or.inr ⟨Bool.not_eq_true' _ ▸ hab.1, hab.2 ?_⟩
    exact Bool.not_eq_true' _ ▸ Bool.not_eq_true _ ▸ hlt

/-- In a sorted list nothing comes before what is in front of it. -/
theorem pairwise_mergeSort_of_comparable (h : Comparable lt xs) :
    (xs.mergeSort fun a b => !lt b a).Pairwise fun a b => lt b a = false := by
  have htrue : xs.Pairwise fun _ _ => True := List.pairwise_of_forall fun _ _ => trivial
  refine (pairwise_mergeSort_thenBy h htrue).imp_of_mem fun {a b} ha hb hab => ?_
  rcases hab with hlt | ⟨hnlt, -⟩
  · exact h.asymm a (List.mem_mergeSort.1 ha) b (List.mem_mergeSort.1 hb) hlt
  · exact hnlt

/-- The only rearrangement in the order of a sort is the sorted list. -/
theorem mergeSort_eq_of_pairwise (h : Comparable lt xs) (hr : xs.Pairwise r)
    (hasymm : ∀ a ∈ xs, ∀ b ∈ xs, r a b → ¬ r b a) (hperm : ys ~ xs)
    (hys : ys.Pairwise (ThenBy lt r)) : (xs.mergeSort fun a b => !lt b a) = ys := by
  have hsorted := List.mergeSort_perm xs fun a b => !lt b a
  refine (hsorted.trans hperm.symm).eq_of_pairwise ?_ (pairwise_mergeSort_thenBy h hr) hys
  intro a b ha hb hab hba
  have ha := hsorted.mem_iff.1 ha
  have hb := hperm.mem_iff.1 hb
  exact absurd hba (hab.asymm (h.asymm a ha b hb) (hasymm a ha b hb))

/-- Sorting and leaving out go in either order. -/
theorem filter_mergeSort (h : Comparable lt xs) (hr : xs.Pairwise r)
    (hasymm : ∀ a ∈ xs, ∀ b ∈ xs, r a b → ¬ r b a) (p : α → Bool) :
    (xs.mergeSort fun a b => !lt b a).filter p
      = (xs.filter p).mergeSort fun a b => !lt b a := by
  have hsub : xs.filter p ⊆ xs := fun a ha => (List.mem_filter.1 ha).1
  refine (mergeSort_eq_of_pairwise (h.subset hsub) (hr.filter p)
    (fun a ha b hb => hasymm a (hsub ha) b (hsub hb)) ?_ ?_).symm
  · exact (List.mergeSort_perm _ _).filter p
  · exact (pairwise_mergeSort_thenBy h hr).filter p

/-- Where a comparison tells all members apart, sorting forgets the order in which they came. -/
theorem mergeSort_congr_of_perm (h : Comparable lt xs)
    (hapart : xs.Pairwise fun a b => lt a b = true ∨ lt b a = true) (hperm : ys ~ xs) :
    (ys.mergeSort fun a b => !lt b a) = xs.mergeSort fun a b => !lt b a := by
  have hsorted : ∀ zs, zs ~ xs →
      (zs.mergeSort fun a b => !lt b a).Pairwise fun a b => lt a b = true := by
    intro zs hzs
    have hzsapart := (hzs.pairwise_iff fun {a b} hab => hab.symm).2 hapart
    refine (pairwise_mergeSort_thenBy (h.subset hzs.subset) hzsapart).imp fun {a b} hab => ?_
    rcases hab with hlt | ⟨hnlt, hlt | hgt⟩
    · exact hlt
    · exact hlt
    · exact absurd hgt (by rw [hnlt]; simp)
  have hys := List.mergeSort_perm ys fun a b => !lt b a
  have hxs := List.mergeSort_perm xs fun a b => !lt b a
  refine ((hys.trans hperm).trans hxs.symm).eq_of_pairwise ?_ (hsorted ys hperm)
    (hsorted xs (List.Perm.refl xs))
  intro a b ha hb hab hba
  have hnba := h.asymm a ((hys.trans hperm).mem_iff.1 ha) b (hxs.mem_iff.1 hb) hab
  exact absurd hba (by rw [hnba]; simp)

/-! ## The front of a list -/

/-- Where what is left in comes before what is left out, cutting and leaving out go in either
order. -/
theorem filter_take {p : α → Bool} (h : xs.Pairwise fun a b => p b = true → p a = true) (k : Nat) :
    (xs.take k).filter p = (xs.filter p).take k := by
  induction xs generalizing k with
  | nil => simp
  | cons a xs ih =>
      cases k with
      | zero => simp
      | succ k =>
          rw [List.pairwise_cons] at h
          by_cases ha : p a = true
          · rw [List.take_succ_cons, List.filter_cons_of_pos ha, List.filter_cons_of_pos ha,
              List.take_succ_cons, ih h.2]
          · have hnone : xs.filter p = [] := by
              rw [List.filter_eq_nil_iff]
              exact fun b hb hpb => ha (h.1 b hb hpb)
            rw [List.take_succ_cons, List.filter_cons_of_neg ha, List.filter_cons_of_neg ha,
              ih h.2, hnone]
            simp

/-- The first members of a list in order are those before which only few come. -/
theorem mem_take_iff_countP [DecidableRel r] (h : xs.Pairwise r)
    (hasymm : ∀ a ∈ xs, ∀ b ∈ xs, r a b → ¬ r b a) {k : Nat} {a : α} (ha : a ∈ xs) :
    a ∈ xs.take k ↔ xs.countP (fun b => decide (r b a)) < k := by
  induction xs generalizing k with
  | nil => exact absurd ha (by simp)
  | cons b xs ih =>
      rw [List.pairwise_cons] at h
      cases k with
      | zero => simp
      | succ k =>
          rw [List.take_succ_cons, List.mem_cons]
          rcases List.mem_cons.1 ha with rfl | hmem
          · -- nothing comes before the first member
            have hself : ¬ r a a := fun haa => hasymm a ha a ha haa haa
            have hnone : (a :: xs).countP (fun b => decide (r b a)) = 0 := by
              rw [List.countP_eq_zero]
              intro b hb
              rw [decide_eq_true_eq]
              rcases List.mem_cons.1 hb with rfl | hb'
              · exact hself
              · exact hasymm a ha b hb (h.1 b hb')
            rw [hnone]
            exact iff_of_true (Or.inl rfl) (Nat.succ_pos k)
          · have hba := h.1 a hmem
            have hne : a ≠ b := by
              rintro rfl
              exact hasymm a ha a ha hba hba
            rw [List.countP_cons_of_pos (p := fun c => decide (r c a)) (decide_eq_true hba),
              Nat.add_lt_add_iff_right, ← ih h.2 (fun c hc d hd =>
                hasymm c (List.mem_cons_of_mem _ hc) d (List.mem_cons_of_mem _ hd)) hmem]
            exact or_iff_right hne

/-- Where what is left in comes before what is left out, it is the front of the list. -/
theorem take_eq_filter {p : α → Bool} (h : xs.Pairwise fun a b => p b = true → p a = true) {k : Nat}
    (hk : (xs.filter p).length = k) : xs.take k = xs.filter p := by
  have hfilter : (xs.take k).filter p = xs.filter p := by
    rw [filter_take h, ← hk, List.take_length]
  have hlength : ((xs.take k).filter p).length = (xs.take k).length := by
    have hle := List.length_filter_le p xs
    rw [hfilter, hk, List.length_take]
    omega
  rw [← hfilter]
  exact (List.filter_eq_self.2 (List.length_filter_eq_length_iff.1 hlength)).symm

theorem exists_split {k : Nat} {a b : α} (ha : xs[k]? = some a) (hb : xs[k + 1]? = some b) :
    ∃ front back, xs = front ++ a :: b :: back ∧ front.length = k := by
  obtain ⟨hk, rfl⟩ := List.getElem?_eq_some_iff.1 ha
  obtain ⟨hk', rfl⟩ := List.getElem?_eq_some_iff.1 hb
  refine ⟨xs.take k, xs.drop (k + 2), ?_, ?_⟩
  · rw [← List.drop_eq_getElem_cons hk', ← List.drop_eq_getElem_cons hk, List.take_append_drop]
  · rw [List.length_take]
    omega

/-- The members of a sorted list that come before one of them which is told apart from the one in
front of it. -/
theorem filter_eq_front {front back : List α} {a b : α}
    (h : Comparable lt (front ++ a :: b :: back))
    (hsorted : (front ++ a :: b :: back).Pairwise fun c d => lt d c = false)
    (hab : lt a b = true) :
    (front ++ a :: b :: back).filter (fun c => lt c b) = front ++ [a] := by
  rw [List.pairwise_append, List.pairwise_cons, List.pairwise_cons] at hsorted
  obtain ⟨-, ⟨-, hback, -⟩, hfront⟩ := hsorted
  have hbb : lt b b = false := by
    by_contra hne
    have hlt := Bool.not_eq_false _ ▸ hne
    exact hne (h.asymm b (by simp) b (by simp) hlt)
  have hbefore : ∀ c ∈ front, lt c b = true := by
    intro c hc
    rcases h.between a (by simp) c (by simp [hc]) b (by simp) hab with hac | hcb
    · exact absurd hac (by rw [hfront c hc a List.mem_cons_self]; simp)
    · exact hcb
  have hbehind : ∀ c ∈ back, ¬ lt c b = true := fun c hc => by rw [hback c hc]; simp
  rw [List.filter_append, List.filter_eq_self.2 hbefore, List.filter_cons, if_pos hab,
    List.filter_cons, if_neg (by rw [hbb]; simp), List.filter_eq_nil_iff.2 hbehind]

/-- Where the cut goes between members that a comparison tells apart, the front of a sorted list is
what comes before the member behind the cut. -/
theorem filter_mergeSort_eq_take (h : Comparable lt xs) {k : Nat} {a b : α}
    (ha : (xs.mergeSort fun a b => !lt b a)[k]? = some a)
    (hb : (xs.mergeSort fun a b => !lt b a)[k + 1]? = some b) (hab : lt a b = true) :
    (xs.mergeSort fun a b => !lt b a).filter (fun c => lt c b)
      = (xs.mergeSort fun a b => !lt b a).take (k + 1) := by
  have hcomparable := h.subset (List.mergeSort_perm xs fun a b => !lt b a).subset
  have hsorted := pairwise_mergeSort_of_comparable h
  obtain ⟨front, back, hsplit, hfront⟩ := exists_split ha hb
  rw [hsplit] at hcomparable hsorted ⊢
  have htake : (front ++ a :: b :: back).take (k + 1) = front ++ [a] := by
    rw [← hfront, List.take_length_add_append]
    rfl
  rw [htake]
  exact filter_eq_front hcomparable hsorted hab

/-- Such a front holds the same members whatever the order in which they came. -/
theorem take_mergeSort_perm (h : Comparable lt xs) (hperm : ys ~ xs) {k : Nat} {a b : α}
    (ha : (xs.mergeSort fun a b => !lt b a)[k]? = some a)
    (hb : (xs.mergeSort fun a b => !lt b a)[k + 1]? = some b) (hab : lt a b = true) :
    (ys.mergeSort fun a b => !lt b a).take (k + 1)
      ~ (xs.mergeSort fun a b => !lt b a).take (k + 1) := by
  have hxs := List.mergeSort_perm xs fun a b => !lt b a
  have hys := (List.mergeSort_perm ys fun a b => !lt b a).trans hperm
  have hmem : b ∈ xs := hxs.mem_iff.1 (List.mem_of_getElem? hb)
  have hbefore : (ys.mergeSort fun a b => !lt b a).Pairwise
      fun c d => lt d b = true → lt c b = true := by
    refine (pairwise_mergeSort_of_comparable (h.subset hperm.subset)).imp_of_mem
      fun {c d} hc hd hdc hdb => ?_
    rcases h.between d (hys.mem_iff.1 hd) c (hys.mem_iff.1 hc) b hmem hdb with hlt | hlt
    · exact absurd hlt (by rw [hdc]; simp)
    · exact hlt
  have hfront := (hys.trans hxs.symm).filter fun c => lt c b
  rw [filter_mergeSort_eq_take h ha hb hab] at hfront
  have hlength : ((ys.mergeSort fun a b => !lt b a).filter fun c => lt c b).length = k + 1 := by
    obtain ⟨hk', -⟩ := List.getElem?_eq_some_iff.1 hb
    rw [hfront.length_eq, List.length_take]
    omega
  rw [take_eq_filter hbefore hlength]
  exact hfront

end TagCloud
