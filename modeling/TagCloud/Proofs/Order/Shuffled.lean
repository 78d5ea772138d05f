import TagCloud.Proofs.Order.Limit
import TagCloud.Proofs.Order.Selection
import TagCloud.Proofs.Random.Draw

/-!
# Random order

A random order is one permutation of the places of all labels, and the limit cuts what it puts
first. Neither the cut nor anything else about the labels has a part in the drawing: what is drawn,
and what the generator is afterwards with the half that it holds back, follows from how many labels
there are.

Several clouds of one page draw from one generator, each from what the one before it left. Since
the permutations are drawn from nothing but the number of labels of each cloud, they are the same
whatever else is asked for. The permutations are therefore given before the labels are: one drawing
of permutations for some sizes serves all the lists of labels of these sizes.
-/

namespace TagCloud

open scoped List

variable {R W : Type}

/-- Labels that are to be ordered, with the configuration that says how. -/
structure Batch (R W : Type) where
  config : Config R
  labels : List (Label W)

/-- What is shown of a batch when its labels are drawn at the given places: the labels at these
places, as far as the limit goes. -/
structure Dealt (batch : Batch R W) (places : List Nat) (shown : List (Label W)) : Prop where
  perm : places ~ List.range batch.labels.length
  at_places : List.Forall₂ (fun i label => batch.labels[i]? = some label)
    (upTo batch.config.limit places) shown
  nodup : (upTo batch.config.limit places).Nodup
  complete : batch.config.limit = 0 ∨ batch.labels.length ≤ batch.config.limit →
    upTo batch.config.limit places = places

/-! ## The labels at drawn places -/

section

variable {α : Type} {labels : List α} {places : List Nat}

theorem forall₂_atPlaces (h : ∀ i ∈ places, i < labels.length) :
    List.Forall₂ (fun i label => labels[i]? = some label) places (atPlaces labels places) := by
  induction places with
  | nil => exact .nil
  | cons i places ih =>
      rw [List.forall_mem_cons] at h
      have hi : labels[i]? = some (labels.get ⟨i, h.1⟩) :=
        List.getElem?_eq_getElem h.1
      unfold atPlaces
      rw [List.filterMap_cons_some hi]
      exact .cons hi (ih h.2)

theorem forall₂_upTo {β : Type} {r : α → β → Prop} {xs : List α} {ys : List β} (limit : Nat)
    (h : List.Forall₂ r xs ys) : List.Forall₂ r (upTo limit xs) (upTo limit ys) := by
  unfold upTo
  split
  · exact List.forall₂_take limit h
  · exact h

theorem upTo_eq_self {limit : Nat} (h : limit = 0 ∨ labels.length ≤ limit) :
    upTo limit labels = labels := by
  unfold upTo
  split
  · exact List.take_of_length_le (h.resolve_left (by omega))
  · rfl

theorem dealt_atPlaces {batch : Batch R W} (h : places ~ List.range batch.labels.length) :
    Dealt batch places (upTo batch.config.limit (atPlaces batch.labels places)) where
  perm := h
  at_places := by
    refine forall₂_upTo _ (forall₂_atPlaces fun i hi => ?_)
    exact List.mem_range.1 (h.mem_iff.1 hi)
  nodup := (h.nodup_iff.2 List.nodup_range).sublist (upTo_isPrefix (Or.inl rfl) places).sublist
  complete hlimit := upTo_eq_self (by rwa [h.length_eq, List.length_range])

theorem Dealt.eq_upTo {batch : Batch R W} {shown : List (Label W)}
    (h : Dealt batch places shown) :
    shown = upTo batch.config.limit (atPlaces batch.labels places) := by
  have hunique : Relator.RightUnique fun (i : Nat) label => batch.labels[i]? = some label :=
    fun _ _ _ hi hi' => Option.some.inj (hi.symm.trans hi')
  exact hunique.forall₂ h.at_places (dealt_atPlaces h.perm).at_places

end

/-! ## One draw -/

variable [Weighable W] {c : Config R} {g later : Generator} {labels : List (Label W)}

theorem sortLabels_of_permutes {places : List Nat} (hsort : c.sort = .rand)
    (h : g.Permutes labels.length places later) :
    sortLabels c (.generator g) labels
      = .ok (upTo c.limit (atPlaces labels places), .generator later) := by
  unfold sortLabels
  rw [hsort]
  simp only [Generator.permutation?_eq_some_iff.2 h]

theorem Generator.Permutes.perm {n : Nat} {places : List Nat} (h : g.Permutes n places later) :
    places ~ List.range n :=
  permutation?_perm (permutation?_eq_some_iff.2 h)

/-! ## One draw after the other -/

/-- Orders batches one after the other; each draws from what the one before it left. -/
def sortInTurn (source : Source) :
    List (Batch R W) → Except CloudError (List (List (Label W)) × Source)
  | [] => .ok ([], source)
  | batch :: batches => do
    let (shown, source) ← sortLabels batch.config source batch.labels
    let (others, source) ← sortInTurn source batches
    return (shown :: others, source)

theorem sortInTurn_of_permutesInTurn {sizes : List Nat} {drawn : List (List Nat)}
    (h : g.PermutesInTurn sizes drawn later) {batches : List (Batch R W)}
    (hsort : ∀ batch ∈ batches, batch.config.sort = .rand)
    (hsizes : batches.map (·.labels.length) = sizes) :
    ∃ shown, sortInTurn (.generator g) batches = .ok (shown, .generator later)
      ∧ List.Forall₂ (fun (dealt : Batch R W × List Nat) shown => Dealt dealt.1 dealt.2 shown)
          (batches.zip drawn) shown := by
  induction h generalizing batches with
  | nil =>
      rw [List.map_eq_nil_iff] at hsizes
      subst hsizes
      exact ⟨[], rfl, .nil⟩
  | cons hplaces _ ih =>
      obtain ⟨batch, rest, rfl, rfl, hrest⟩ := List.map_eq_cons_iff.1 hsizes
      rw [List.forall_mem_cons] at hsort
      obtain ⟨shown, hshown, hdealt⟩ := ih hsort.2 hrest
      refine ⟨_ :: shown, ?_, .cons (dealt_atPlaces hplaces.perm) hdealt⟩
      rw [sortInTurn, sortLabels_of_permutes hsort.1 hplaces]
      simp only [bind, Except.bind, hshown]
      rfl

/-- In random order labels are shown at the places of one permutation, as far as the limit goes. The
permutation and the generator that is left are those of the generator at hand and the number of
labels, whatever the labels are and whatever else is asked for. -/
theorem sortLabels_random (g : Generator) :
    (∀ n places later, g.Permutes n places later →
      ∀ (c : Config R) (labels : List (Label W)), c.sort = .rand → labels.length = n →
        ∃ shown, sortLabels c (.generator g) labels = .ok (shown, .generator later)
          ∧ Dealt ⟨c, labels⟩ places shown
          ∧ ∀ limit, Widens c.limit limit →
              ∃ more, sortLabels { c with limit } (.generator g) labels
                  = .ok (more, .generator later)
                ∧ shown <+: more)
      ∧ ∀ sizes drawn later, g.PermutesInTurn sizes drawn later →
          ∀ batches : List (Batch R W), (∀ batch ∈ batches, batch.config.sort = .rand) →
            batches.map (·.labels.length) = sizes →
              ∃ shown, sortInTurn (.generator g) batches = .ok (shown, .generator later)
                ∧ List.Forall₂
                    (fun (dealt : Batch R W × List Nat) shown => Dealt dealt.1 dealt.2 shown)
                    (batches.zip drawn) shown := by
  constructor
  · rintro _ places later h c labels hsort rfl
    refine ⟨_, sortLabels_of_permutes hsort h, dealt_atPlaces h.perm, fun limit hlimit => ?_⟩
    exact ⟨_, sortLabels_of_permutes (c := { c with limit }) hsort h, upTo_isPrefix hlimit _⟩
  · intro sizes drawn later h batches hsort hsizes
    exact sortInTurn_of_permutesInTurn h hsort hsizes

/-- The configuration that shows labels in random order. -/
def shuffled (limit : Nat) : Config Float :=
  { Config.initial Float with limit, sort := .rand }

/-- Three labels, of which two have one name. -/
def trio : List (Label (Quantity Float)) :=
  [⟨"b", .whole 1⟩, ⟨"a", .whole 2⟩, ⟨"b", .whole 0⟩]

/-- What the seed 3 gives first for three labels and then for four. The first draw leaves a half
word behind, and the second begins with it. -/
theorem sortLabels_random_trio :
    ∃ next later,
      sortLabels (shuffled 2) (.generator (.ofSeed 3)) trio
          = .ok ([⟨"b", .whole 0⟩, ⟨"a", .whole 2⟩], .generator next)
        ∧ sortInTurn (.generator (.ofSeed 3))
            [⟨shuffled 2, trio⟩, ⟨shuffled 0, ⟨"c", .whole 1⟩ :: trio⟩]
          = .ok ([[⟨"b", .whole 0⟩, ⟨"a", .whole 2⟩],
              [⟨"a", .whole 2⟩, ⟨"c", .whole 1⟩, ⟨"b", .whole 0⟩, ⟨"b", .whole 1⟩]],
              .generator later) := by
  have hdrawn : ((Generator.ofSeed 3).permutation? 3).bind
      (fun first => (first.2.permutation? 4).map fun second => (first.1, second.1))
        = some ([2, 1, 0], [2, 0, 3, 1]) := by decide +kernel
  simp only [Option.bind_eq_some_iff, Option.map_eq_some_iff, Prod.exists, Prod.mk.injEq,
    Generator.permutation?_eq_some_iff] at hdrawn
  obtain ⟨_, next, hfirst, _, later, hsecond, rfl, rfl⟩ := hdrawn
  obtain ⟨hone, hturn⟩ := sortLabels_random (R := Float) (W := Quantity Float) (.ofSeed 3)
  obtain ⟨shown, hshown, hdealt, -⟩ := hone 3 _ next hfirst (shuffled 2) trio rfl rfl
  obtain ⟨all, hall, hdealts⟩ := hturn [3, 4] _ later (.cons hfirst (.cons hsecond .nil))
    [⟨shuffled 2, trio⟩, ⟨shuffled 0, ⟨"c", .whole 1⟩ :: trio⟩] (by decide) rfl
  obtain _ | ⟨hdealt₁, _ | ⟨hdealt₂, _ | _⟩⟩ := hdealts
  refine ⟨next, later, ?_, ?_⟩
  · rw [hshown, hdealt.eq_upTo]
    rfl
  · rw [hall, hdealt₁.eq_upTo, hdealt₂.eq_upTo]
    rfl

end TagCloud
