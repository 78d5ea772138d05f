import TagCloud.Proofs.Order.Carried
import TagCloud.Proofs.Order.Stable

/-!
# The order of a cloud, exactly

Outside random order the labels of a cloud are sorted up to three times: by weight before the cut,
and then by name or by weight. Each sort refines the order that it finds, so the whole is one order
with one place for each label: the last sort decides first, then the weights when there was a cut,
then the places in which the labels came. Which labels are left is decided before, by the weights
and the places alone.

The main statement is that the labels shown are those and in that order, and that nothing else
would fit the description. Weights only have to be comparable among the labels at hand, as doubles
are as long as none of them is undefined.
-/

namespace TagCloud

open scoped List

variable {R W : Type} [Weighable W]

/-! ## Comparing things with labels -/

section

variable {α : Type}

/-- Whether the one label is lighter than the other. -/
def lighterBy (label : α → Label W) (a b : α) : Bool :=
  Weighable.lighter (label a).weight (label b).weight

/-- Whether the one label is heavier than the other. -/
def heavierBy (label : α → Label W) (a b : α) : Bool :=
  Weighable.lighter (label b).weight (label a).weight

/-- Whether the name of the one label comes before that of the other, or after it when the direction
is down. -/
def namedBy {W : Type} (label : α → Label W) (order : Direction) (a b : α) : Bool :=
  if order = .desc then decide ((label b).name < (label a).name)
  else decide ((label a).name < (label b).name)

/-- The order in which a configuration shows things with labels, when they came in the order `r`. -/
def Precedes (c : Config R) (label : α → Label W) (r : α → α → Prop) : α → α → Prop :=
  match c.sort with
  | .freq =>
    if c.order = .asc then ThenBy (lighterBy label) r else ThenBy (heavierBy label) r
  | _ =>
    ThenBy (namedBy label c.order) (if c.limit = 0 then r else ThenBy (heavierBy label) r)

omit [Weighable W] in
theorem comparable_namedBy (label : α → Label W) (order : Direction) (xs : List α) :
    Comparable (namedBy label order) xs := by
  have hup := comparable_of_linearOrder (fun a => (label a).name) xs
  by_cases h : order = .desc
  · have heq : namedBy label order = fun a b => decide ((label b).name < (label a).name) := by
      funext a b
      rw [namedBy, if_pos h]
    rw [heq]
    exact hup.reverse
  · have heq : namedBy label order = fun a b => decide ((label a).name < (label b).name) := by
      funext a b
      rw [namedBy, if_neg h]
    rw [heq]
    exact hup

omit [Weighable W] in
/-- Two different names are told apart, whatever the direction. -/
theorem namedBy_or_of_ne {label : α → Label W} {order : Direction} {a b : α}
    (hne : (label a).name ≠ (label b).name) :
    namedBy label order a b = true ∨ namedBy label order b a = true := by
  unfold namedBy
  split
  · simpa using lt_or_gt_of_ne hne.symm
  · simpa using lt_or_gt_of_ne hne

end

/-! ## The sorts, and the cut -/

variable {labels : List (Label W)} {r : Label W → Label W → Prop}

omit [Weighable W] in
theorem byName_eq (order : Direction) (labels : List (Label W)) :
    byName order labels = labels.mergeSort fun a b => !namedBy id order b a := by
  unfold byName namedBy
  split
  · rfl
  · rfl

/-- The labels that a limit keeps, before they are ordered. -/
def keptLabels (limit : Nat) (labels : List (Label W)) : List (Label W) :=
  if 0 < limit then (heaviestFirst labels).take limit else labels

theorem keptLabels_zero (labels : List (Label W)) : keptLabels 0 labels = labels := rfl

theorem keptLabels_pos {limit : Nat} (h : limit ≠ 0) (labels : List (Label W)) :
    keptLabels limit labels = (heaviestFirst labels).take limit :=
  if_pos (Nat.pos_of_ne_zero h)

theorem keptLabels_subset (limit : Nat) (labels : List (Label W)) :
    keptLabels limit labels ⊆ labels := by
  unfold keptLabels
  split
  · exact fun a ha => (heaviestFirst_perm labels).mem_iff.1 (List.mem_of_mem_take ha)
  · exact List.Subset.refl _

theorem exists_of_mem_arrange {α : Type} {f : α → Label W} {xs : List α} {c : Config R}
    {label : Label W} (h : label ∈ arrange c (xs.map f)) : ∃ x ∈ xs, f x = label :=
  List.mem_map.1 (keptLabels_subset c.limit _ ((arrange_perm c _).mem_iff.1 h))

theorem arrange_eq (c : Config R) (labels : List (Label W)) :
    arrange c labels
      = match c.sort with
        | .freq =>
          if c.order = .asc then lightestFirst (keptLabels c.limit labels)
          else if c.limit = 0 then heaviestFirst (keptLabels c.limit labels)
          else keptLabels c.limit labels
        | _ => byName c.order (keptLabels c.limit labels) := rfl

/-- The order in which the labels are before the last sort. -/
def keptOrder (limit : Nat) (r : Label W → Label W → Prop) : Label W → Label W → Prop :=
  if limit = 0 then r else ThenBy (heavierBy id) r

section

variable (hw : Comparable (lighterBy id) labels)

include hw

theorem pairwise_heaviestFirst (hr : labels.Pairwise r) :
    (heaviestFirst labels).Pairwise (ThenBy (heavierBy id) r) :=
  pairwise_mergeSort_thenBy hw.reverse hr

theorem pairwise_keptLabels (hr : labels.Pairwise r) (limit : Nat) :
    (keptLabels limit labels).Pairwise (keptOrder limit r) := by
  by_cases h : limit = 0
  · rw [h]
    exact hr
  · rw [keptLabels_pos h, keptOrder, if_neg h]
    exact (pairwise_heaviestFirst hw hr).sublist (List.take_sublist _ _)

/-- Labels that came in the order `r` are shown in the order that the configuration makes of it. -/
theorem pairwise_arrange (hr : labels.Pairwise r) (c : Config R) :
    (arrange c labels).Pairwise (Precedes c id r) := by
  have hkept := pairwise_keptLabels hw hr c.limit
  have hcomparable := hw.subset (keptLabels_subset c.limit labels)
  have hname : (byName c.order (keptLabels c.limit labels)).Pairwise
      (ThenBy (namedBy id c.order) (if c.limit = 0 then r else ThenBy (heavierBy id) r)) := by
    rw [byName_eq]
    exact pairwise_mergeSort_thenBy (comparable_namedBy _ _ _) hkept
  rw [arrange_eq]
  unfold Precedes
  cases c.sort with
  | alpha => exact hname
  | rand => exact hname
  | other name => exact hname
  | freq =>
      simp only []
      split
      · refine (pairwise_mergeSort_thenBy hcomparable hkept).imp fun {a b} hab => ?_
        -- of two equally heavy labels neither is the heavier one
        rcases hab with hlt | ⟨hnlt, hafter⟩
        · exact Or.inl hlt
        · by_cases hlimit : c.limit = 0
          · rw [keptOrder, if_pos hlimit] at hafter
            exact Or.inr ⟨hnlt, hafter⟩
          · rw [keptOrder, if_neg hlimit] at hafter
            rcases hafter with hheavier | ⟨-, hrab⟩
            · have hnot : heavierBy id a b = false := hnlt
              exact absurd hheavier (by simp [hnot])
            · exact Or.inr ⟨hnlt, hrab⟩
      · split
        · next hlimit =>
            rw [hlimit] at hkept hcomparable ⊢
            exact pairwise_heaviestFirst hcomparable hkept
        · next hlimit =>
            rw [keptOrder, if_neg hlimit] at hkept
            exact hkept

end

theorem Precedes.asymm {α : Type} {label : α → Label W} {r : α → α → Prop} {xs : List α}
    {c : Config R} (hw : Comparable (lighterBy label) xs) (hr : ∀ a ∈ xs, ∀ b ∈ xs, r a b → ¬ r b a)
    {a b : α} (ha : a ∈ xs) (hb : b ∈ xs) (hab : Precedes c label r a b) :
    ¬ Precedes c label r b a := by
  have hlighter := hw.asymm a ha b hb
  have hheavier : heavierBy label a b = true → heavierBy label b a = false :=
    hw.reverse.asymm a ha b hb
  have hnamed := (comparable_namedBy label c.order xs).asymm a ha b hb
  have hrest : (if c.limit = 0 then r else ThenBy (heavierBy label) r) a b →
      ¬ (if c.limit = 0 then r else ThenBy (heavierBy label) r) b a := by
    split
    · exact hr a ha b hb
    · exact ThenBy.asymm hheavier (hr a ha b hb)
  unfold Precedes at hab ⊢
  cases hsort : c.sort with
  | alpha => rw [hsort] at hab; exact ThenBy.asymm hnamed hrest hab
  | rand => rw [hsort] at hab; exact ThenBy.asymm hnamed hrest hab
  | other name => rw [hsort] at hab; exact ThenBy.asymm hnamed hrest hab
  | freq =>
      rw [hsort] at hab
      simp only [] at hab ⊢
      by_cases horder : c.order = .asc
      · rw [if_pos horder] at hab ⊢
        exact ThenBy.asymm hlighter (hr a ha b hb) hab
      · rw [if_neg horder] at hab ⊢
        exact ThenBy.asymm hheavier (hr a ha b hb) hab

/-! ## Labels with their places -/

/-- In the order of the places. -/
def Earlier (p q : Label W × Nat) : Prop :=
  p.2 < q.2

instance : DecidableRel (Earlier (W := W)) :=
  fun p q => inferInstanceAs (Decidable (p.2 < q.2))

/-- A label is kept when there is no limit, or when fewer labels than the limit come before it in
the order of the weights, the heaviest first, and of the places. -/
def IsKept (limit : Nat) (labels : List (Label W)) (p : Label W × Nat) : Prop :=
  limit = 0
    ∨ labels.zipIdx.countP (fun q => decide (ThenBy (heavierBy Prod.fst) Earlier q p)) < limit

/-- The labels that are kept, each once and with its place, in the order of the configuration. -/
structure InOrder (c : Config R) (labels : List (Label W)) (shown : List (Label W × Nat)) :
    Prop where
  mem_iff : ∀ p, p ∈ shown ↔ p ∈ labels.zipIdx ∧ IsKept c.limit labels p
  nodup : shown.Nodup
  pairwise : shown.Pairwise (Precedes c Prod.fst Earlier)

/-- The labels with their places for a load. -/
def placed (labels : List (Label W)) : List (Label (Carried W Nat)) :=
  labels.zipIdx.map fun p => p.1.carry p.2

/-- A label and its place. -/
def Label.pair {W : Type} (label : Label (Carried W Nat)) : Label W × Nat :=
  (label.bare, label.load)

omit [Weighable W] in
theorem map_pair_placed (labels : List (Label W)) :
    (placed labels).map Label.pair = labels.zipIdx := by
  unfold placed
  rw [List.map_map]
  exact List.map_id' _

omit [Weighable W] in
theorem map_bare_placed (labels : List (Label W)) : (placed labels).map Label.bare = labels := by
  have hfst : Label.bare (W := W) (ι := Nat) = Prod.fst ∘ Label.pair := rfl
  rw [hfst, ← List.map_map, map_pair_placed, List.zipIdx_map_fst]

theorem comparable_placed (hw : Comparable (lighterBy id) labels) :
    Comparable (lighterBy id) (placed labels) := by
  rw [← map_bare_placed labels] at hw
  exact hw.of_map

omit [Weighable W] in
theorem pairwise_placed (labels : List (Label W)) :
    (placed labels).Pairwise fun a b => Earlier a.pair b.pair := by
  rw [← List.pairwise_map (f := Label.pair), map_pair_placed]
  exact pairwise_zipIdx labels

theorem comparable_zipIdx (hw : Comparable (lighterBy id) labels) :
    Comparable (lighterBy Prod.fst) labels.zipIdx := by
  rw [← List.zipIdx_map_fst 0 labels] at hw
  exact hw.of_map

theorem precedes_pair {c : Config R} {a b : Label (Carried W Nat)} :
    Precedes c id (fun a b => Earlier a.pair b.pair) a b
      ↔ Precedes c Prod.fst Earlier a.pair b.pair := by
  unfold Precedes
  cases c.sort with
  | alpha => simp only []; split <;> exact Iff.rfl
  | rand => simp only []; split <;> exact Iff.rfl
  | other name => simp only []; split <;> exact Iff.rfl
  | freq => simp only []; split <;> exact Iff.rfl

/-- The labels that a limit keeps are those that are kept. -/
theorem mem_keptLabels_iff (hw : Comparable (lighterBy id) labels) (limit : Nat)
    (p : Label W × Nat) :
    p ∈ (keptLabels limit (placed labels)).map Label.pair
      ↔ p ∈ labels.zipIdx ∧ IsKept limit labels p := by
  by_cases hlimit : limit = 0
  · rw [hlimit, keptLabels_zero, map_pair_placed]
    exact (and_iff_left (Or.inl rfl)).symm
  · have hperm : (heaviestFirst (placed labels)).map Label.pair ~ labels.zipIdx := by
      rw [← map_pair_placed labels]
      exact (heaviestFirst_perm _).map _
    have hsorted : ((heaviestFirst (placed labels)).map Label.pair).Pairwise
        (ThenBy (heavierBy Prod.fst) Earlier) := by
      rw [List.pairwise_map]
      exact pairwise_heaviestFirst (comparable_placed hw) (pairwise_placed labels)
    have hasymm : ∀ a ∈ labels.zipIdx, ∀ b ∈ labels.zipIdx,
        ThenBy (heavierBy Prod.fst) Earlier a b → ¬ ThenBy (heavierBy Prod.fst) Earlier b a :=
      fun a ha b hb => ThenBy.asymm ((comparable_zipIdx hw).reverse.asymm a ha b hb)
        fun hab => Nat.lt_asymm hab
    rw [keptLabels_pos hlimit, List.map_take, IsKept, or_iff_right hlimit, ← hperm.mem_iff,
      ← hperm.countP_eq]
    constructor
    · intro hp
      have hmem := List.mem_of_mem_take hp
      refine ⟨hmem, (mem_take_iff_countP hsorted ?_ hmem).1 hp⟩
      exact fun a ha b hb => hasymm a (hperm.mem_iff.1 ha) b (hperm.mem_iff.1 hb)
    · rintro ⟨hmem, hp⟩
      refine (mem_take_iff_countP hsorted ?_ hmem).2 hp
      exact fun a ha b hb => hasymm a (hperm.mem_iff.1 ha) b (hperm.mem_iff.1 hb)

theorem inOrder_arrange (hw : Comparable (lighterBy id) labels) (c : Config R) :
    InOrder c labels ((arrange c (placed labels)).map Label.pair) := by
  have hperm : (arrange c (placed labels)).map Label.pair
      ~ (keptLabels c.limit (placed labels)).map Label.pair :=
    (arrange_perm c (placed labels)).map _
  have hpairwise : ((arrange c (placed labels)).map Label.pair).Pairwise
      (Precedes c Prod.fst Earlier) := by
    rw [List.pairwise_map]
    exact (pairwise_arrange (comparable_placed hw) (pairwise_placed labels) c).imp
      fun h => precedes_pair.1 h
  have hmem : ∀ p, p ∈ (arrange c (placed labels)).map Label.pair
      ↔ p ∈ labels.zipIdx ∧ IsKept c.limit labels p := by
    intro p
    rw [hperm.mem_iff]
    exact mem_keptLabels_iff hw c.limit p
  refine ⟨hmem, hpairwise.imp_of_mem fun {p q} hp _ hpq heq => ?_, hpairwise⟩
  have hp := ((hmem p).1 hp).1
  rw [← heq] at hpq
  exact Precedes.asymm (comparable_zipIdx hw) (fun _ _ _ _ => Nat.lt_asymm) hp hp hpq hpq

theorem InOrder.unique {c : Config R} {shown other : List (Label W × Nat)}
    (hw : Comparable (lighterBy id) labels) (hshown : InOrder c labels shown)
    (hother : InOrder c labels other) : other = shown := by
  have hperm : other ~ shown := by
    rw [List.perm_ext_iff_of_nodup hother.nodup hshown.nodup]
    intro p
    rw [hother.mem_iff, hshown.mem_iff]
  refine hperm.eq_of_pairwise ?_ hother.pairwise hshown.pairwise
  intro p q hp hq hpq hqp
  have hp := ((hother.mem_iff p).1 hp).1
  have hq := ((hshown.mem_iff q).1 hq).1
  exact absurd hqp
    (Precedes.asymm (comparable_zipIdx hw) (fun _ _ _ _ => Nat.lt_asymm) hp hq hpq)

theorem sortLabels_of_ne_rand {c : Config R} (h : c.sort ≠ .rand) (source : Source)
    (labels : List (Label W)) : sortLabels c source labels = .ok (arrange c labels, source) := by
  unfold sortLabels
  split
  · next hsort => exact absurd hsort h
  · rfl

/-- Outside random order the labels shown are the kept ones in the order of the configuration, no
other list is that, and nothing is drawn. -/
theorem sortLabels_inOrder {c : Config R} {labels : List (Label W)} (source : Source)
    (hsort : c.sort ≠ .rand) (hw : Comparable (lighterBy id) labels) :
    ∃ shown : List (Label W × Nat),
      sortLabels c source labels = .ok (shown.map Prod.fst, source)
        ∧ InOrder c labels shown
        ∧ ∀ other, InOrder c labels other → other = shown := by
  have hshown := inOrder_arrange hw c
  refine ⟨_, ?_, hshown, fun other hother => hshown.unique hw hother⟩
  rw [sortLabels_of_ne_rand hsort, List.map_map]
  have hfst : Prod.fst ∘ Label.pair = Label.bare (W := W) (ι := Nat) := rfl
  rw [hfst, map_arrange (Label.alike_bare _), map_bare_placed]

/-- The configuration in which nothing is asked for. -/
def Config.initial (R : Type) : Config R where
  sizeMin := .whole 70
  sizeMax := .whole 170
  precision := 0
  unit := .percent
  threshold := 1
  limit := 0
  sort := .alpha
  order := .asc
  style := .list
  tagBefore := listTagBefore
  tagAfter := listTagAfter
  separator := ""

theorem Draft.check_initial (R : Type) : (Draft.initial R).check = .ok (Config.initial R) := rfl

/-- Labels of which some are equally heavy, and some have one name. -/
def tied : List (Label Float) :=
  [⟨"b", 0.5⟩, ⟨"a", 0.5⟩, ⟨"a", 1⟩, ⟨"b", 0.5⟩, ⟨"c", 0⟩]

/-- The cut leaves out the lightest label. Of two equal names the heavier label comes first, and of
two equal labels the one that came first. -/
theorem sortLabels_inOrder_tied :
    Comparable (lighterBy id) tied
      ∧ sortLabels { Config.initial Float with limit := 4, order := .desc } (.foreign "int") tied
        = .ok ([⟨"b", 0.5⟩, ⟨"b", 0.5⟩, ⟨"a", 1⟩, ⟨"a", 0.5⟩], .foreign "int") := by
  have hw : Comparable (lighterBy id) tied := ⟨by decide +kernel, by decide +kernel⟩
  let c : Config Float := { Config.initial Float with limit := 4, order := .desc }
  obtain ⟨shown, hsorted, -, hunique⟩ := sortLabels_inOrder (c := c) (.foreign "int") (by decide) hw
  have hexpected : InOrder c tied
      [(⟨"b", 0.5⟩, 0), (⟨"b", 0.5⟩, 3), (⟨"a", 1⟩, 2), (⟨"a", 0.5⟩, 1)] := by
    refine ⟨fun p => ⟨?_, ?_⟩, by decide +kernel, ?_⟩
    · revert p
      simp only [IsKept]
      decide +kernel
    · rintro ⟨hplace, hkept⟩
      revert p
      simp only [IsKept]
      decide +kernel
    · show List.Pairwise (ThenBy (namedBy Prod.fst .desc) (ThenBy (heavierBy Prod.fst) Earlier)) _
      decide +kernel
  refine ⟨hw, ?_⟩
  rw [hsorted, ← hunique _ hexpected]
  rfl

end TagCloud
