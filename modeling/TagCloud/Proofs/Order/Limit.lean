import TagCloud.Proofs.Order.Arranged

/-!
# Raising the limit

A limit keeps the heaviest labels, so a higher one keeps all that a lower one keeps, and no limit
keeps everything. That alone does not say that the labels kept come in the same order under both:
with a limit they are sorted by weight before they are sorted for good, and without one they are
not. What helps is that each result is in an order with one place for every label, and that it is
the same order for both. By weight the first sort refines nothing that the last one leaves open, and
by name nothing is left open when no two names are the same. A part of a list that is in the order
of the list is found in it from left to right.

By weight downwards there is more to see: the cut is all that happens to the sorted list.
-/

namespace TagCloud

open scoped List

section

variable {α : Type} {r : α → α → Prop} {xs ys : List α}

/-- A part of a list, in the order of the list, is what is left of it when the rest is dropped. -/
theorem sublist_of_pairwise (hsub : ys <+~ xs) (hxs : xs.Pairwise r) (hys : ys.Pairwise r)
    (hasymm : ∀ a ∈ xs, ∀ b ∈ xs, r a b → ¬ r b a) : ys <+ xs := by
  obtain ⟨zs, hperm, hzs⟩ := hsub
  have heq : zs = ys := by
    refine hperm.eq_of_pairwise ?_ (hxs.sublist hzs) hys
    intro a b ha hb hab hba
    exact absurd hba (hasymm a (hzs.subset ha) b (hzs.subset (hperm.mem_iff.2 hb)) hab)
  exact heq ▸ hzs

/-- The one limit lets through what the other does: it is no limit, or it is not below it. -/
def Widens (low high : Nat) : Prop :=
  high = 0 ∨ (low ≠ 0 ∧ low ≤ high)

theorem upTo_isPrefix {low high : Nat} (h : Widens low high) (xs : List α) :
    upTo low xs <+: upTo high xs := by
  unfold upTo
  rcases h with rfl | ⟨hpos, hle⟩
  · split
    · exact List.take_prefix low xs
    · exact List.prefix_rfl
  · rw [if_pos (by omega), if_pos (by omega)]
    exact List.take_prefix_take_left hle

end

variable {R W : Type} [Weighable W] {labels : List (Label W)} {low high : Nat}

/-! ## The same order -/

theorem IsKept.widen {p : Label W × Nat} (hlimits : Widens low high) (h : IsKept low labels p) :
    IsKept high labels p := by
  rcases hlimits with rfl | ⟨hpos, hle⟩
  · exact Or.inl rfl
  · rcases h with rfl | hcount
    · exact absurd rfl hpos
    · exact Or.inr (hcount.trans_le hle)

/-- Shown occurrences with different names have different names. -/
theorem InOrder.pairwise_name {c : Config R} {shown : List (Label W × Nat)}
    (hshown : InOrder c labels shown) (hnames : (labels.map (·.name)).Nodup) :
    shown.Pairwise fun p q => p.1.name ≠ q.1.name := by
  have hplaced : (labels.zipIdx.map fun p => p.1.name).Nodup := by
    rw [← List.zipIdx_map_fst 0 labels, List.map_map] at hnames
    exact hnames
  refine hshown.nodup.imp_of_mem fun {p q} hp hq hne hname => hne ?_
  exact List.inj_on_of_nodup_map hplaced ((hshown.mem_iff p).1 hp).1 ((hshown.mem_iff q).1 hq).1
    hname

theorem Precedes.named {α : Type} {c : Config R} {label : α → Label W} {r : α → α → Prop} {a b : α}
    (hsort : c.sort ≠ .freq) (h : Precedes c label r a b) :
    ThenBy (namedBy label c.order) (if c.limit = 0 then r else ThenBy (heavierBy label) r) a b := by
  unfold Precedes at h
  cases hmode : c.sort with
  | alpha => rw [hmode] at h; exact h
  | rand => rw [hmode] at h; exact h
  | other name => rw [hmode] at h; exact h
  | freq => exact absurd hmode hsort

/-- Whatever the limit, labels are shown in one and the same order where weights decide, or where no
two names are the same. -/
theorem exists_order {c : Config R} (hw : Comparable (lighterBy id) labels)
    (hsort : c.sort = .freq ∨ (labels.map (·.name)).Nodup) :
    ∃ r : Label W × Nat → Label W × Nat → Prop,
      (∀ p ∈ labels.zipIdx, ∀ q ∈ labels.zipIdx, r p q → ¬ r q p)
        ∧ ∀ limit shown, InOrder { c with limit } labels shown → shown.Pairwise r := by
  by_cases hfreq : c.sort = .freq
  · refine ⟨Precedes c Prod.fst Earlier, fun p hp q hq hpq => ?_, fun limit shown hshown => ?_⟩
    · exact Precedes.asymm (comparable_zipIdx hw) (fun _ _ _ _ => Nat.lt_asymm) hp hq hpq
    · have hpairwise := hshown.pairwise
      unfold Precedes at hpairwise ⊢
      rw [hfreq] at hpairwise ⊢
      exact hpairwise
  · have hnames := hsort.resolve_left hfreq
    have hnamed := comparable_namedBy Prod.fst c.order labels.zipIdx
    refine ⟨fun p q => namedBy Prod.fst c.order p q = true, fun p hp q hq hpq hqp => ?_,
      fun limit shown hshown => ?_⟩
    · exact Bool.false_ne_true ((hnamed.asymm p hp q hq hpq).symm.trans hqp)
    · refine (hshown.pairwise.and (hshown.pairwise_name hnames)).imp fun {p q} ⟨hpq, hne⟩ => ?_
      rcases Precedes.named (c := { c with limit }) hfreq hpq with hlt | ⟨hnot, -⟩
      · exact hlt
      · exact (namedBy_or_of_ne hne).resolve_right (by rw [hnot]; simp)

theorem InOrder.sublist {c : Config R} {few many : List (Label W × Nat)}
    (hw : Comparable (lighterBy id) labels)
    (hsort : c.sort = .freq ∨ (labels.map (·.name)).Nodup) (hlimits : Widens low high)
    (hfew : InOrder { c with limit := low } labels few)
    (hmany : InOrder { c with limit := high } labels many) : few <+ many := by
  obtain ⟨r, hasymm, hpairwise⟩ := exists_order hw hsort
  have hsub : few ⊆ many := by
    intro p hp
    obtain ⟨hplace, hkept⟩ := (hfew.mem_iff p).1 hp
    exact (hmany.mem_iff p).2 ⟨hplace, hkept.widen hlimits⟩
  refine sublist_of_pairwise (List.subperm_of_subset hfew.nodup hsub) (hpairwise high many hmany)
    (hpairwise low few hfew) fun p hp q hq => ?_
  exact hasymm p ((hmany.mem_iff p).1 hp).1 q ((hmany.mem_iff q).1 hq).1

/-! ## What is shown under a limit -/

/-- The labels that are shown, each with the place at which it came. The places are carried through
the ordering as loads. -/
structure Shows (c : Config R) (source : Source) (labels : List (Label W))
    (shown : List (Label W × Nat)) : Prop where
  labels_eq : sortLabels c source labels = .ok (shown.map Prod.fst, source)
  placed_eq :
    sortLabels c source (placed labels) = .ok (shown.map fun p => p.1.carry p.2, source)

/-- The occurrences of an order that is not random. -/
def arranged (c : Config R) (labels : List (Label W)) : List (Label W × Nat) :=
  (arrange c (placed labels)).map Label.pair

theorem shows_arranged {c : Config R} (source : Source) (hsort : c.sort ≠ .rand)
    (labels : List (Label W)) : Shows c source labels (arranged c labels) := by
  constructor
  · have hfst : Prod.fst ∘ Label.pair = Label.bare (W := W) (ι := Nat) := rfl
    rw [sortLabels_of_ne_rand hsort, arranged, List.map_map, hfst,
      map_arrange (Label.alike_bare _), map_bare_placed]
  · have hcarry : (fun p : Label W × Nat => p.1.carry p.2) ∘ Label.pair = id := rfl
    rw [sortLabels_of_ne_rand hsort, arranged, List.map_map, hcarry, List.map_id]

theorem Shows.unique {c : Config R} {source : Source} {shown other : List (Label W × Nat)}
    (hshown : Shows c source labels shown) (hother : Shows c source labels other) :
    shown = other := by
  have hcarry : Function.Injective fun p : Label W × Nat => p.1.carry p.2 :=
    Function.LeftInverse.injective (g := Label.pair) fun _ => rfl
  have heq := hshown.placed_eq.symm.trans hother.placed_eq
  rw [Except.ok.injEq, Prod.mk.injEq] at heq
  exact List.map_injective_iff.2 hcarry heq.1

theorem arrange_heaviest {c : Config R} (hsort : c.sort = .freq) (horder : c.order ≠ .asc)
    (labels : List (Label W)) : arrange c labels = upTo c.limit (heaviestFirst labels) := by
  rw [arrange_eq, hsort]
  simp only [if_neg horder]
  unfold upTo
  by_cases hlimit : c.limit = 0
  · rw [if_pos hlimit, if_neg (by omega), hlimit, keptLabels_zero]
  · rw [if_neg hlimit, if_pos (by omega), keptLabels_pos hlimit]

theorem arranged_isPrefix {c : Config R} (hsort : c.sort = .freq) (horder : c.order ≠ .asc)
    (hlimits : Widens low high) (labels : List (Label W)) :
    arranged { c with limit := low } labels <+: arranged { c with limit := high } labels := by
  unfold arranged
  rw [arrange_heaviest (c := { c with limit := low }) hsort horder,
    arrange_heaviest (c := { c with limit := high }) hsort horder]
  exact (upTo_isPrefix hlimits _).map _

/-- A higher limit, or none, shows what a lower one shows, in the same order, and by weight
downwards it shows it first. -/
theorem sortLabels_widen {c : Config R} {labels : List (Label W)} {low high : Nat} (source : Source)
    (hrand : c.sort ≠ .rand) (hsort : c.sort = .freq ∨ (labels.map (·.name)).Nodup)
    (hw : Comparable (lighterBy id) labels) (hpos : 0 < low) (hle : low ≤ high) :
    ∃ few many all : List (Label W × Nat),
      Shows { c with limit := low } source labels few
        ∧ Shows { c with limit := high } source labels many
        ∧ Shows { c with limit := 0 } source labels all
        ∧ few <+ many ∧ few <+ all
        ∧ (c.sort = .freq → c.order ≠ .asc → few <+: many ∧ few <+: all) := by
  have hhigh : Widens low high := Or.inr ⟨by omega, hle⟩
  have hall : Widens low 0 := Or.inl rfl
  have hshows : ∀ limit, Shows { c with limit } source labels (arranged { c with limit } labels) :=
    fun limit => shows_arranged (c := { c with limit }) source hrand labels
  refine ⟨_, _, _, hshows low, hshows high, hshows 0, ?_, ?_, fun hfreq horder => ⟨?_, ?_⟩⟩
  · exact InOrder.sublist hw hsort hhigh (inOrder_arrange hw _) (inOrder_arrange hw _)
  · exact InOrder.sublist hw hsort hall (inOrder_arrange hw _) (inOrder_arrange hw _)
  · exact arranged_isPrefix hfreq horder hhigh labels
  · exact arranged_isPrefix hfreq horder hall labels

/-- Labels of which three are equally heavy, and two pairs have one name. -/
def even : List (Label (Quantity Float)) :=
  [⟨"b", .whole 1⟩, ⟨"a", .whole 1⟩, ⟨"a", .whole 2⟩, ⟨"b", .whole 1⟩, ⟨"c", .whole 0⟩]

/-- The configuration that shows the heaviest labels by weight upwards. -/
def upwards (limit : Nat) : Config Float :=
  { Config.initial Float with limit, sort := .freq, order := .asc }

/-- By weight upwards a higher limit lets labels in before and between those that are there. -/
theorem sortLabels_widen_even :
    Shows (upwards 2) (.foreign "int") even [(⟨"b", .whole 1⟩, 0), (⟨"a", .whole 2⟩, 2)]
      ∧ Shows (upwards 4) (.foreign "int") even
          [(⟨"b", .whole 1⟩, 0), (⟨"a", .whole 1⟩, 1), (⟨"b", .whole 1⟩, 3), (⟨"a", .whole 2⟩, 2)]
      ∧ [(⟨"b", .whole 1⟩, 0), (⟨"a", .whole 2⟩, 2)]
          <+ [((⟨"b", .whole 1⟩, 0) : Label (Quantity Float) × Nat), (⟨"a", .whole 1⟩, 1),
            (⟨"b", .whole 1⟩, 3), (⟨"a", .whole 2⟩, 2)] := by
  have hw : Comparable (lighterBy id) even := ⟨by decide +kernel, by decide +kernel⟩
  obtain ⟨few, many, -, hfew, hmany, -, hsub, -⟩ : ∃ few many all,
      Shows (upwards 2) (.foreign "int") even few ∧ Shows (upwards 4) (.foreign "int") even many
        ∧ Shows (upwards 0) (.foreign "int") even all ∧ few <+ many ∧ few <+ all ∧ _ :=
    sortLabels_widen (c := upwards 2) (.foreign "int") (by decide) (Or.inl rfl) hw (by decide)
      (by decide : 2 ≤ 4)
  have hfew' : few = [(⟨"b", .whole 1⟩, 0), (⟨"a", .whole 2⟩, 2)] :=
    (hfew.unique (shows_arranged _ (by decide) even)).trans (by cbv)
  have hmany' : many = [(⟨"b", .whole 1⟩, 0), (⟨"a", .whole 1⟩, 1), (⟨"b", .whole 1⟩, 3),
      (⟨"a", .whole 2⟩, 2)] :=
    (hmany.unique (shows_arranged _ (by decide) even)).trans (by cbv)
  subst hfew' hmany'
  exact ⟨hfew, hmany, hsub⟩

end TagCloud
