import Mathlib.Data.Finset.Card
import Mathlib.Logic.Function.Iterate
import TagCloud.Random.Generator

/-!
# Drawing without a budget

A draw is repeated for as long as what comes lies beyond its bound, and nothing says for how long
that may be. The relations of this module say what is drawn in these terms, with no budget in them:
a number, then a shuffle, then permutations one after the other from one generator.

The generator is run on a budget, and the main statement is that this makes no difference: it draws
what is drawn without one, whenever anything is. A budget that is used up has seen as many states as
there are, so one of them has come twice, and from there on nothing new comes. What has been refused
until then is therefore refused for ever.
-/

namespace TagCloud.Generator

variable {bound budget : Nat} {g later : Generator}

/-! ## The states of a generator -/

/-- The number that is tried next. -/
def candidate (bound : Nat) (g : Generator) : Nat :=
  (g.nextWord bound).1 &&& mask bound

/-- The generator after one try. -/
def tried (bound : Nat) (g : Generator) : Generator :=
  (g.nextWord bound).2

theorem draw?_succ (bound budget : Nat) (g : Generator) :
    draw? bound (budget + 1) g
      = if g.candidate bound ≤ bound then some (g.candidate bound, g.tried bound)
        else draw? bound budget (g.tried bound) := rfl

theorem increment_tried (bound : Nat) (g : Generator) :
    (g.tried bound).increment = g.increment := by
  obtain ⟨state, increment, held⟩ := g
  change _ = increment
  unfold tried nextWord
  split
  · cases held with
    | none => rfl
    | some half => rfl
  · rfl

theorem increment_iterate_tried (bound : Nat) (g : Generator) (n : Nat) :
    ((tried bound)^[n] g).increment = g.increment := by
  induction n generalizing g with
  | zero => rfl
  | succ n ih => rw [Function.iterate_succ_apply, ih, increment_tried]

/-- The half that is held back as a number; zero when there is none. -/
def heldCode : Option UInt32 → Nat
  | none => 0
  | some half => half.toNat + 1

theorem heldCode_lt (held : Option UInt32) : heldCode held < 0x100000001 := by
  cases held with
  | none => exact Nat.succ_pos _
  | some half => exact Nat.succ_lt_succ half.toNat_lt

theorem heldCode_injective : Function.Injective heldCode := by
  intro x y h
  cases x with
  | none =>
      cases y with
      | none => rfl
      | some half => exact absurd h (Nat.succ_ne_zero _).symm
  | some half =>
      cases y with
      | none => exact absurd h (Nat.succ_ne_zero _)
      | some other => rw [UInt32.toNat_inj.1 (Nat.succ.inj h)]

/-- The number of a state among those with one increment. -/
def code (g : Generator) : Nat :=
  g.state.toNat * 0x100000001 + heldCode g.held

theorem code_lt (g : Generator) : g.code < drawBudget := by
  have hstate : g.state.toNat < Nat.pow 2 128 := g.state.isLt
  calc g.state.toNat * 0x100000001 + heldCode g.held
      < g.state.toNat * 0x100000001 + 0x100000001 := Nat.add_lt_add_left (heldCode_lt g.held) _
    _ = (g.state.toNat + 1) * 0x100000001 := (Nat.succ_mul _ _).symm
    _ ≤ drawBudget := Nat.mul_le_mul_right _ hstate

theorem eq_of_code_eq {g h : Generator} (hincrement : g.increment = h.increment)
    (hcode : g.code = h.code) : g = h := by
  have hg := heldCode_lt g.held
  have hh := heldCode_lt h.held
  unfold code at hcode
  have hstate : g.state.toNat = h.state.toNat := by omega
  have hheld : heldCode g.held = heldCode h.held := by omega
  obtain ⟨state, increment, held⟩ := g
  obtain ⟨state', increment', held'⟩ := h
  simp only at hincrement hstate hheld
  rw [hincrement, BitVec.eq_of_toNat_eq hstate, heldCode_injective hheld]

/-- Some state comes twice before there have been more tries than there are states. -/
theorem exists_repeat (bound : Nat) (g : Generator) :
    ∃ i j, i < j ∧ j ≤ drawBudget ∧ (tried bound)^[i] g = (tried bound)^[j] g := by
  have hcard : (Finset.range drawBudget).card < (Finset.range (drawBudget + 1)).card := by
    rw [Finset.card_range, Finset.card_range]
    exact Nat.lt_succ_self _
  obtain ⟨i, hi, j, hj, hne, hcode⟩ := Finset.exists_ne_map_eq_of_card_lt_of_maps_to hcard
    (f := fun n => ((tried bound)^[n] g).code) fun n _ => Finset.mem_range.2 (code_lt _)
  have heq : (tried bound)^[i] g = (tried bound)^[j] g := by
    refine eq_of_code_eq ?_ hcode
    rw [increment_iterate_tried, increment_iterate_tried]
  rw [Finset.mem_range] at hi hj
  rcases Nat.lt_or_gt_of_ne hne with hlt | hgt
  · exact ⟨i, j, hlt, by omega, heq⟩
  · exact ⟨j, i, hgt, by omega, heq.symm⟩

/-- Every state comes within as many tries as there are states. -/
theorem exists_lt_iterate_tried (bound : Nat) (g : Generator) (n : Nat) :
    ∃ k < drawBudget, (tried bound)^[k] g = (tried bound)^[n] g := by
  obtain ⟨i, j, hlt, hle, heq⟩ := exists_repeat bound g
  induction n using Nat.strongRecOn with
  | ind n ih =>
      by_cases hn : n < drawBudget
      · exact ⟨n, hn, rfl⟩
      · -- the way from the second time to here is the way from the first time to an earlier place
        obtain ⟨k, hk, hback⟩ := ih (n - j + i) (by omega)
        refine ⟨k, hk, hback.trans ?_⟩
        rw [Function.iterate_add_apply, heq, ← Function.iterate_add_apply]
        congr 2
        omega

/-! ## Drawing a number -/

/-- Draws a number up to `bound`: what comes is taken if it does not lie beyond the bound, and else
the draw is made again. -/
inductive Draws (bound : Nat) : Generator → Nat → Generator → Prop
  | taken {g : Generator} (h : g.candidate bound ≤ bound) :
      Draws bound g (g.candidate bound) (g.tried bound)
  | again {g later : Generator} {k : Nat} (h : bound < g.candidate bound)
      (hrest : Draws bound (g.tried bound) k later) : Draws bound g k later

theorem draws_of_draw? {k : Nat} (h : draw? bound budget g = some (k, later)) :
    Draws bound g k later := by
  induction budget generalizing g with
  | zero => exact absurd h (by simp [draw?])
  | succ budget ih =>
      rw [draw?_succ] at h
      split at h
      · next hle =>
          obtain ⟨rfl, rfl⟩ := Prod.mk.inj (Option.some.inj h)
          exact .taken hle
      · next hgt => exact .again (Nat.lt_of_not_le hgt) (ih h)

theorem Draws.unique {k k' : Nat} {later' : Generator} (h : Draws bound g k later)
    (h' : Draws bound g k' later') : k = k' ∧ later = later' := by
  induction h with
  | taken hle =>
      cases h' with
      | taken => exact ⟨rfl, rfl⟩
      | again hgt => exact absurd hle (Nat.not_le_of_lt hgt)
  | again hgt _ ih =>
      cases h' with
      | taken hle => exact absurd hle (Nat.not_le_of_lt hgt)
      | again _ hrest => exact ih hrest

theorem draw?_eq_none_iff :
    draw? bound budget g = none ↔ ∀ n < budget, bound < ((tried bound)^[n] g).candidate bound := by
  induction budget generalizing g with
  | zero => simp [draw?]
  | succ budget ih =>
      rw [draw?_succ]
      split
      · next hle =>
          refine iff_of_false (by simp) fun hall => ?_
          exact absurd (hall 0 (Nat.succ_pos budget)) (Nat.not_lt_of_le hle)
      · next hgt =>
          rw [ih]
          constructor
          · intro hall n hn
            cases n with
            | zero => exact Nat.lt_of_not_le hgt
            | succ n =>
                rw [Function.iterate_succ_apply]
                exact hall n (Nat.lt_of_succ_lt_succ hn)
          · intro hall n hn
            have hnext := hall (n + 1) (Nat.succ_lt_succ hn)
            rwa [Function.iterate_succ_apply] at hnext

/-- What is refused as often as there are states is refused for ever. -/
theorem not_draws_of_draw?_eq_none {k : Nat} (h : draw? bound drawBudget g = none) :
    ¬ Draws bound g k later := by
  have hall : ∀ n, bound < ((tried bound)^[n] g).candidate bound := by
    intro n
    obtain ⟨m, hm, heq⟩ := exists_lt_iterate_tried bound g n
    rw [← heq]
    exact draw?_eq_none_iff.1 h m hm
  intro hdraws
  clear h
  induction hdraws with
  | taken hle => exact absurd (hall 0) (Nat.not_lt_of_le hle)
  | again _ _ ih =>
      refine ih fun n => ?_
      have hnext := hall (n + 1)
      rwa [Function.iterate_succ_apply] at hnext

/-- On its budget a generator draws what is drawn without one. -/
theorem draw?_eq_some_iff {k : Nat} :
    draw? bound drawBudget g = some (k, later) ↔ Draws bound g k later := by
  constructor
  · exact draws_of_draw?
  · intro h
    cases hdraw : draw? bound drawBudget g with
    | none => exact absurd h (not_draws_of_draw?_eq_none hdraw)
    | some drawn =>
        obtain ⟨k', later'⟩ := drawn
        obtain ⟨rfl, rfl⟩ := h.unique (draws_of_draw? hdraw)
        rfl

/-! ## Drawing permutations -/

/-- Swaps the places `i` down to 1 of an array, each with a place up to it that is drawn. -/
inductive Shuffles : (i : Nat) → Array Nat → Generator → Array Nat → Generator → Prop
  | done {places : Array Nat} {g : Generator} : Shuffles 0 places g places g
  | swap {i j : Nat} {places drawn : Array Nat} {g next later : Generator}
      (hdraw : Draws (i + 1) g j next)
      (hrest : Shuffles i (places.swapIfInBounds (i + 1) j) next drawn later) :
      Shuffles (i + 1) places g drawn later

theorem shuffle?_eq_some_iff {i : Nat} {places drawn : Array Nat} :
    shuffle? i places g = some (drawn, later) ↔ Shuffles i places g drawn later := by
  induction i generalizing places g with
  | zero =>
      simp only [shuffle?, Option.some.injEq, Prod.mk.injEq]
      constructor
      · rintro ⟨rfl, rfl⟩
        exact .done
      · rintro ⟨⟩
        exact ⟨rfl, rfl⟩
  | succ i ih =>
      simp only [shuffle?, Option.bind_eq_bind, Option.bind_eq_some_iff, Prod.exists,
        draw?_eq_some_iff, ih]
      constructor
      · rintro ⟨j, next, hdraw, hrest⟩
        exact .swap hdraw hrest
      · rintro (_ | ⟨hdraw, hrest⟩)
        exact ⟨_, _, hdraw, hrest⟩

/-- Draws a permutation of the numbers below `n` by shuffling them. -/
def Permutes (g : Generator) (n : Nat) (places : List Nat) (later : Generator) : Prop :=
  ∃ drawn, Shuffles (n - 1) (Array.range n) g drawn later ∧ places = drawn.toList

theorem permutation?_eq_some_iff {n : Nat} {places : List Nat} :
    g.permutation? n = some (places, later) ↔ g.Permutes n places later := by
  simp only [permutation?, Permutes, Option.bind_eq_bind, Option.bind_eq_some_iff, Prod.exists,
    shuffle?_eq_some_iff, Option.pure_def, Option.some.injEq, Prod.mk.injEq]
  constructor
  · rintro ⟨drawn, later, hdrawn, rfl, rfl⟩
    exact ⟨drawn, hdrawn, rfl⟩
  · rintro ⟨drawn, hdrawn, rfl⟩
    exact ⟨drawn, later, hdrawn, rfl, rfl⟩

/-- Draws permutations of the numbers below some sizes, one after the other. -/
inductive PermutesInTurn : Generator → List Nat → List (List Nat) → Generator → Prop
  | nil {g : Generator} : PermutesInTurn g [] [] g
  | cons {g next later : Generator} {n : Nat} {sizes places : List Nat} {drawn : List (List Nat)}
      (h : g.Permutes n places next) (hrest : PermutesInTurn next sizes drawn later) :
      PermutesInTurn g (n :: sizes) (places :: drawn) later

end TagCloud.Generator
