import TagCloud.Proofs.Order.Selection

/-!
# What labels carry through the ordering

Two labels can be alike in name and weight, and then nothing in a cloud tells which of two
occurrences it shows. To speak of occurrences all the same, labels are given a load that no
comparison looks at: the ordering is a function of labels with any weights that can be compared, so
it can be run with loaded weights, and what it does with them is what it does with the bare ones.

The reason is the same for every change of labels that keeps names and comparisons: the ordering
commutes with it. Taking off a load is such a change, and so is replacing weights by other weights
that compare alike.
-/

namespace TagCloud

variable {R W V ι : Type} [Weighable W] [Weighable V]

/-- A weight with something that no comparison looks at. -/
structure Carried (W ι : Type) where
  weight : W
  load : ι

instance : Weighable (Carried W ι) where
  lighter a b := Weighable.lighter a.weight b.weight

namespace Label

/-- A label with a load. -/
def carry {W : Type} (label : Label W) (x : ι) : Label (Carried W ι) :=
  ⟨label.name, label.weight, x⟩

/-- The label under a load. -/
def bare {W : Type} (label : Label (Carried W ι)) : Label W :=
  ⟨label.name, label.weight.weight⟩

/-- The load of a label. -/
def load {W : Type} (label : Label (Carried W ι)) : ι :=
  label.weight.load

@[simp]
theorem bare_carry {W : Type} (label : Label W) (x : ι) : (label.carry x).bare = label := rfl

@[simp]
theorem load_carry {W : Type} (label : Label W) (x : ι) : (label.carry x).load = x := rfl

/-- A change of labels that no sorting notices. -/
structure Alike (f : Label W → Label V) (labels : List (Label W)) : Prop where
  name : ∀ a ∈ labels, (f a).name = a.name
  lighter : ∀ a ∈ labels, ∀ b ∈ labels,
    Weighable.lighter (f a).weight (f b).weight = Weighable.lighter a.weight b.weight

theorem Alike.subset {f : Label W → Label V} {labels kept : List (Label W)} (h : Alike f labels)
    (hsub : kept ⊆ labels) : Alike f kept where
  name a ha := h.name a (hsub ha)
  lighter a ha b hb := h.lighter a (hsub ha) b (hsub hb)

theorem alike_bare (labels : List (Label (Carried W ι))) : Alike bare labels where
  name _ _ := rfl
  lighter _ _ _ _ := rfl

end Label

variable {f : Label W → Label V} {labels : List (Label W)}

theorem map_lightestFirst (h : Label.Alike f labels) :
    (lightestFirst labels).map f = lightestFirst (labels.map f) :=
  List.map_mergeSort fun a ha b hb => congrArg (! ·) (h.lighter b hb a ha).symm

theorem map_heaviestFirst (h : Label.Alike f labels) :
    (heaviestFirst labels).map f = heaviestFirst (labels.map f) :=
  List.map_mergeSort fun a ha b hb => congrArg (! ·) (h.lighter a ha b hb).symm

theorem map_byName (h : Label.Alike f labels) (order : Direction) :
    (byName order labels).map f = byName order (labels.map f) := by
  unfold byName
  split
  · refine List.map_mergeSort fun a ha b hb => ?_
    rw [h.name a ha, h.name b hb]
  · refine List.map_mergeSort fun a ha b hb => ?_
    rw [h.name a ha, h.name b hb]

/-- An order that is not random does not notice a change that keeps names and comparisons. -/
theorem map_arrange (h : Label.Alike f labels) (c : Config R) :
    (arrange c labels).map f = arrange c (labels.map f) := by
  have hkept : (if 0 < c.limit then (heaviestFirst labels).take c.limit else labels).map f
      = if 0 < c.limit then (heaviestFirst (labels.map f)).take c.limit else labels.map f := by
    split
    · rw [List.map_take, map_heaviestFirst h]
    · rfl
  have hsub : (if 0 < c.limit then (heaviestFirst labels).take c.limit else labels) ⊆ labels := by
    split
    · exact fun a ha => (heaviestFirst_perm labels).mem_iff.1 (List.mem_of_mem_take ha)
    · exact List.Subset.refl _
  unfold arrange
  rw [← hkept]
  have halike := h.subset hsub
  generalize (if 0 < c.limit then (heaviestFirst labels).take c.limit else labels) = kept at halike
  simp only []
  split
  · split
    · exact map_lightestFirst halike
    · split
      · exact map_heaviestFirst halike
      · rfl
  · exact map_byName halike _

theorem map_atPlaces {α β : Type} (f : α → β) (xs : List α) (places : List Nat) :
    (atPlaces xs places).map f = atPlaces (xs.map f) places := by
  unfold atPlaces
  rw [List.map_filterMap]
  exact List.filterMap_congr fun i _ => List.getElem?_map.symm

theorem map_upTo {α β : Type} (f : α → β) (limit : Nat) (xs : List α) :
    (upTo limit xs).map f = upTo limit (xs.map f) := by
  unfold upTo
  split
  · exact List.map_take
  · rfl

/-- Nor does any order, and the same draws are made. -/
theorem map_sortLabels (h : Label.Alike f labels) (c : Config R) (source : Source) :
    (sortLabels c source labels).map (fun r => (r.1.map f, r.2))
      = sortLabels c source (labels.map f) := by
  unfold sortLabels
  rw [List.length_map, ← map_arrange h]
  split
  · split
    · rfl
    · split
      · rfl
      · rw [← map_atPlaces, ← map_upTo]
        rfl
  · rfl

end TagCloud
