import TagCloud.Proofs.Number.Double
import TagCloud.Proofs.Weight.Spread

/-!
# What weighing does

Weighing gives every tally that qualifies one weight, which depends on its count and on nothing else
of it. The main statement says all there is to say about these weights: where they lie, that they
keep the order of the counts, and which counts are at the ends of the scale. It also says what the
weighing rests on. A logarithm is only taken of numbers from one upwards, and nothing is divided by
zero: whatever a logarithm and a division would give elsewhere, the weights are the same.
-/

namespace TagCloud

open Rounded

variable {R : Type} [Magnitude R]

/-! ## Weights as a function of the count -/

/-- The logarithm that a count is weighed by; a half where the count is too large. -/
def countLog (n : Int) : R :=
  match Magnitude.ofInt? (max n 1) with
  | some x => Magnitude.log x
  | none => Magnitude.half

theorem countLog_eq {n : Int} {x : R} (h : Magnitude.ofInt? (max n 1) = some x) :
    countLog n = Magnitude.log x := by
  rw [countLog, h]

theorem log_eq_ok_iff {t : Tally} {y : R} :
    t.log = .ok y ↔ ∃ x : R, Magnitude.ofInt? (max t.count 1) = some x ∧ Magnitude.log x = y := by
  unfold Tally.log Magnitude.ofInt
  split
  · next x hx => simp [Except.map, hx]
  · next hx => simp [Except.map, hx]

/-- The qualifying counts can be held. -/
def Fits (R : Type) [Magnitude R] (threshold : Int) (tallies : List Tally) : Prop :=
  ∀ t ∈ tallies, threshold ≤ t.count → ∃ x : R, Magnitude.ofInt? (max t.count 1) = some x

variable {threshold : Int} {tallies : List Tally}

theorem mem_qualifying {t : Tally} :
    t ∈ qualifying threshold tallies ↔ t ∈ tallies ∧ threshold ≤ t.count := by
  rw [qualifying, List.mem_filter, decide_eq_true_eq]

theorem Fits.log_eq (h : Fits R threshold tallies) {t : Tally}
    (ht : t ∈ qualifying threshold tallies) : t.log = .ok (countLog t.count : R) := by
  obtain ⟨x, hx⟩ := h t (mem_qualifying.1 ht).1 (mem_qualifying.1 ht).2
  exact log_eq_ok_iff.2 ⟨x, hx, (countLog_eq hx).symm⟩

/-- The logarithms of the tallies that qualify. -/
def qualifyingLogs (threshold : Int) (tallies : List Tally) : List R :=
  (qualifying threshold tallies).map fun t => countLog t.count

/-- The weight of a count among some tallies. -/
def countWeight (threshold : Int) (tallies : List Tally) (n : Int) : R :=
  placeOf (qualifyingLogs threshold tallies) (countLog n)

theorem map_zip_spread (threshold : Int) (tallies : List Tally) :
    ((qualifying threshold tallies).zip (spread (qualifyingLogs threshold tallies))).map
        (fun p => (⟨p.1.name, p.2⟩ : Label R))
      = (qualifying threshold tallies).map fun t =>
          ⟨t.name, countWeight threshold tallies t.count⟩ := by
  rw [spread_eq_map, qualifyingLogs, List.map_map, ← List.map_prod_left_eq_zip, List.map_map]
  rfl

/-- Weighing succeeds when the counts can be held, and gives each of them its weight. -/
theorem weigh_eq_map (h : Fits R threshold tallies) :
    weigh threshold tallies
      = .ok ((qualifying threshold tallies).map fun t =>
          (⟨t.name, countWeight threshold tallies t.count⟩ : Label R)) := by
  have hlogs : (qualifying threshold tallies).mapM Tally.log
      = .ok (qualifyingLogs threshold tallies : List R) := by
    rw [mapM_eq_ok, qualifyingLogs, List.forall₂_map_right_iff, List.forall₂_same]
    exact fun t ht => h.log_eq ht
  simp only [weigh, bind_eq_ok, pure_eq_ok]
  exact ⟨_, hlogs, map_zip_spread threshold tallies⟩

theorem map_name_of_weigh {labels : List (Label R)} (h : weigh threshold tallies = .ok labels) :
    labels.map (·.name) = (qualifying threshold tallies).map (·.name) := by
  simp only [weigh, bind_eq_ok, pure_eq_ok] at h
  obtain ⟨logs, hlogs, rfl⟩ := h
  have hlength : (qualifying threshold tallies).length ≤ (spread logs).length := by
    rw [length_spread, length_of_mapM_ok hlogs]
  rw [List.map_map]
  conv_rhs => rw [← List.map_fst_zip hlength, List.map_map]
  rfl

theorem nodup_names_of_weigh {labels : List (Label R)} (h : weigh threshold tallies = .ok labels)
    (hnames : (tallies.map (·.name)).Nodup) : (labels.map (·.name)).Nodup := by
  rw [map_name_of_weigh h]
  exact hnames.sublist ((List.filter_sublist).map _)

/-! ## Where the weights lie -/

variable [Rounded R]

/-- The numbers that a logarithm is taken of. -/
def weighed (threshold : Int) (tallies : List Tally) : Set R :=
  {x | ∃ t ∈ qualifying threshold tallies, Magnitude.ofInt? (max t.count 1) = some x}

/-- The logarithms of some numbers are finite and not too far apart, and they keep the order. -/
structure LogMonotone (xs : Set R) : Prop where
  spannable : Spannable (Magnitude.log '' xs)
  mono : ∀ x ∈ xs, ∀ y ∈ xs, value x ≤ value y →
    value (Magnitude.log x) ≤ value (Magnitude.log y)

/-- Logarithms that are not negative keep the order when comparing finds nothing against it. -/
theorem logMonotone_of_less {xs : Set R} (hfinite : ∀ x ∈ xs, IsFinite x)
    (hlog : ∀ x ∈ xs, IsFinite (Magnitude.log x) ∧ 0 ≤ value (Magnitude.log x))
    (hmono : ∀ x ∈ xs, ∀ y ∈ xs,
      Magnitude.less (Magnitude.log y) (Magnitude.log x) = true → Magnitude.less y x = true) :
    LogMonotone xs := by
  refine ⟨spannable_of_nonneg ?_ ?_, fun x hx y hy hle => ?_⟩
  · rintro _ ⟨x, hx, rfl⟩
    exact (hlog x hx).1
  · rintro _ ⟨x, hx, rfl⟩
    exact (hlog x hx).2
  · by_contra hgt
    have hless := (less_iff (hlog y hy).1 (hlog x hx).1).2 (not_le.1 hgt)
    exact not_lt.2 hle ((less_iff (hfinite y hy) (hfinite x hx)).1 (hmono x hx y hy hless))

omit [Rounded R] in
theorem Fits.countLog_mem (h : Fits R threshold tallies) {t : Tally}
    (ht : t ∈ qualifying threshold tallies) :
    ∃ x ∈ (weighed threshold tallies : Set R),
      Magnitude.ofInt? (max t.count 1) = some x ∧ countLog t.count = Magnitude.log x := by
  obtain ⟨x, hx⟩ := h t (mem_qualifying.1 ht).1 (mem_qualifying.1 ht).2
  exact ⟨x, ⟨t, ht, hx⟩, hx, countLog_eq hx⟩

omit [Rounded R] in
theorem mem_qualifyingLogs {y : R} :
    y ∈ (qualifyingLogs threshold tallies : List R)
      ↔ ∃ t ∈ qualifying threshold tallies, countLog t.count = y := by
  rw [qualifyingLogs, List.mem_map]

section

variable (hfits : Fits R threshold tallies)
  (hlog : LogMonotone (weighed threshold tallies : Set R))

include hfits

theorem spannable_qualifyingLogs
    (h : Spannable (Magnitude.log '' (weighed threshold tallies : Set R))) :
    Spannable {y : R | y ∈ qualifyingLogs threshold tallies} := by
  have hsub : ∀ y ∈ (qualifyingLogs threshold tallies : List R),
      y ∈ Magnitude.log '' (weighed threshold tallies : Set R) := by
    intro y hy
    obtain ⟨t, ht, rfl⟩ := mem_qualifyingLogs.1 hy
    obtain ⟨x, hx, -, heq⟩ := hfits.countLog_mem ht
    exact ⟨x, hx, heq.symm⟩
  exact ⟨fun y hy => h.finite y (hsub y hy),
    fun y hy z hz => h.inRange y (hsub y hy) z (hsub z hz)⟩

theorem finite_of_weigh (h : Spannable (Magnitude.log '' (weighed threshold tallies : Set R)))
    {labels : List (Label R)} (hlabels : weigh threshold tallies = .ok labels) :
    ∀ a ∈ labels, IsFinite a.weight := by
  rw [weigh_eq_map hfits, Except.ok.injEq] at hlabels
  subst hlabels
  intro a ha
  obtain ⟨t, ht, rfl⟩ := List.mem_map.1 ha
  exact finite_placeOf (spannable_qualifyingLogs hfits h) (mem_qualifyingLogs.2 ⟨t, ht, rfl⟩)

include hlog

/-- Logarithms keep the order of the counts, which below one are one. -/
theorem countLog_mono {s t : Tally} (hs : s ∈ qualifying threshold tallies)
    (ht : t ∈ qualifying threshold tallies) (hle : max s.count 1 ≤ max t.count 1) :
    value (countLog s.count : R) ≤ value (countLog t.count : R) := by
  obtain ⟨x, hx, hxs, hxlog⟩ := hfits.countLog_mem hs
  obtain ⟨y, hy, hyt, hylog⟩ := hfits.countLog_mem ht
  rw [hxlog, hylog]
  refine hlog.mono x hx y hy ?_
  obtain ⟨m, hm⟩ := Int.eq_ofNat_of_zero_le (show 0 ≤ max s.count 1 by omega)
  obtain ⟨n, hn⟩ := Int.eq_ofNat_of_zero_le (show 0 ≤ max t.count 1 by omega)
  rw [hm] at hxs hle
  rw [hn] at hyt hle
  rw [(ofInt hxs).2, (ofInt hyt).2]
  exact nearest_mono (by exact_mod_cast hle)

end

/-- The logarithms of some tallies are not all equal. -/
def LogsDiffer (R : Type) [Magnitude R] [Rounded R] (kept : List Tally) : Prop :=
  ∃ s ∈ kept, ∃ t ∈ kept, ∃ x y : R, s.log = .ok x ∧ t.log = .ok y ∧ value x ≠ value y

/-- The weights that the counts of some tallies get. -/
structure OnScale (kept : List Tally) (weight : Int → R) : Prop where
  finite : ∀ t ∈ kept, IsFinite (weight t.count)
  nonneg : ∀ t ∈ kept, 0 ≤ value (weight t.count)
  le_one : ∀ t ∈ kept, value (weight t.count) ≤ 1
  mono : ∀ s ∈ kept, ∀ t ∈ kept, max s.count 1 ≤ max t.count 1 →
    value (weight s.count) ≤ value (weight t.count)
  least : LogsDiffer R kept → ∀ t ∈ kept, (∀ s ∈ kept, t.count ≤ s.count) →
    value (weight t.count) = 0
  greatest : LogsDiffer R kept → ∀ t ∈ kept, (∀ s ∈ kept, s.count ≤ t.count) →
    value (weight t.count) = 1
  half : ¬ LogsDiffer R kept → ∀ t ∈ kept, value (weight t.count) = 1 / 2

theorem logsDiffer_iff (hfits : Fits R threshold tallies) :
    LogsDiffer R (qualifying threshold tallies)
      ↔ ∃ s ∈ qualifying threshold tallies, ∃ t ∈ qualifying threshold tallies,
          value (countLog s.count : R) ≠ value (countLog t.count : R) := by
  constructor
  · rintro ⟨s, hs, t, ht, x, y, hx, hy, hne⟩
    rw [hfits.log_eq hs, Except.ok.injEq] at hx
    rw [hfits.log_eq ht, Except.ok.injEq] at hy
    exact ⟨s, hs, t, ht, hx ▸ hy ▸ hne⟩
  · rintro ⟨s, hs, t, ht, hne⟩
    exact ⟨s, hs, t, ht, _, _, hfits.log_eq hs, hfits.log_eq ht, hne⟩

theorem onScale_countWeight (hfits : Fits R threshold tallies)
    (hlog : LogMonotone (weighed threshold tallies : Set R)) :
    OnScale (qualifying threshold tallies) (countWeight threshold tallies : Int → R) := by
  have hspan := spannable_qualifyingLogs hfits hlog.spannable
  have hmem : ∀ t ∈ qualifying threshold tallies,
      (countLog t.count : R) ∈ qualifyingLogs threshold tallies :=
    fun t ht => mem_qualifyingLogs.2 ⟨t, ht, rfl⟩
  have hdiffer : LogsDiffer R (qualifying threshold tallies) →
      ∃ a ∈ (qualifyingLogs threshold tallies : List R),
        ∃ b ∈ (qualifyingLogs threshold tallies : List R), value a ≠ value b := by
    intro h
    obtain ⟨s, hs, t, ht, hne⟩ := (logsDiffer_iff hfits).1 h
    exact ⟨_, hmem s hs, _, hmem t ht, hne⟩
  refine ⟨fun t ht => finite_placeOf hspan (hmem t ht),
    fun t ht => (placeOf_mem_unit hspan (hmem t ht)).1,
    fun t ht => (placeOf_mem_unit hspan (hmem t ht)).2, fun s hs t ht hle => ?_,
    fun h t ht hleast => ?_, fun h t ht hgreatest => ?_, fun h t ht => ?_⟩
  · exact placeOf_mono hspan (hmem s hs) (hmem t ht) (countLog_mono hfits hlog hs ht hle)
  · refine placeOf_eq_zero hspan (hmem t ht) (hdiffer h) fun y hy => ?_
    obtain ⟨s, hs, rfl⟩ := mem_qualifyingLogs.1 hy
    have hle := hleast s hs
    exact countLog_mono hfits hlog ht hs (by omega)
  · refine placeOf_eq_one hspan (hmem t ht) (hdiffer h) fun y hy => ?_
    obtain ⟨s, hs, rfl⟩ := mem_qualifyingLogs.1 hy
    have hle := hgreatest s hs
    exact countLog_mono hfits hlog hs ht (by omega)
  · have hequal : ∀ a ∈ (qualifyingLogs threshold tallies : List R),
        ∀ b ∈ (qualifyingLogs threshold tallies : List R), value a = value b := by
      intro a ha b hb
      obtain ⟨r, hr, rfl⟩ := mem_qualifyingLogs.1 ha
      obtain ⟨s, hs, rfl⟩ := mem_qualifyingLogs.1 hb
      by_contra hne
      exact h ((logsDiffer_iff hfits).2 ⟨r, hr, s, hs, hne⟩)
    rw [countWeight, placeOf_eq_half hspan (hmem t ht) hequal]
    exact value_half

/-! ## What weighing rests on -/

/-- The same numbers with another logarithm and another division. -/
abbrev Magnitude.replacing (log : R → R) (div : R → R → R) : Magnitude R :=
  { ‹Magnitude R› with log, div }

/-- The laws say nothing about the logarithm, so it may be any. -/
abbrev Rounded.withLog (log : R → R) : @Rounded R (Magnitude.replacing log (· / ·)) :=
  @Rounded.mk R (Magnitude.replacing log (· / ·)) IsFinite value (nearest R) nearest_mono
    nearest_value nearest_sub_pos less_iff sub div finite_half value_half (@ofInt R _ _) exists_zero
    exists_one

theorem one_le_of_mem_weighed {x : R} (hx : x ∈ (weighed threshold tallies : Set R)) :
    IsFinite x ∧ 1 ≤ value x := by
  obtain ⟨t, -, hx⟩ := hx
  obtain ⟨n, hn⟩ := Int.eq_ofNat_of_zero_le (show 0 ≤ max t.count 1 by omega)
  rw [hn] at hx
  exact ⟨(ofInt hx).1, one_le_value_of_ofInt (by omega) hx⟩

section

variable {log : R → R} {div : R → R → R}

theorem spread_replacing {logs : List R} (h : Spannable {x | x ∈ logs})
    (hdiv : ∀ x y, IsFinite x → IsFinite y → value y ≠ 0 → div x y = x / y) :
    @spread R (Magnitude.replacing log div) logs = spread logs := by
  cases logs with
  | nil => rfl
  | cons x xs =>
      have hends := ends_cons h.finite
      unfold spread
      simp only []
      by_cases hless : Magnitude.less (leastOf x xs) (greatestOf x xs) = true
      · have hextent := extent_pos h hless
        rw [if_pos hless]
        refine (if_pos hless).trans (List.map_congr_left fun y hy => ?_)
        exact hdiv _ _ (rise_of_mem h hy).1 (rise_of_mem h hends.high_mem).1 hextent.ne'
      · rw [if_neg hless]
        exact if_neg hless

/-- Whatever a logarithm gives below one, and a division by zero, weighing gives the same. -/
theorem weigh_congr (hfits : Fits R threshold tallies)
    (hspan : Spannable (Magnitude.log '' (weighed threshold tallies : Set R)))
    (hlog : ∀ x, IsFinite x → 1 ≤ value x → log x = Magnitude.log x)
    (hdiv : ∀ x y, IsFinite x → IsFinite y → value y ≠ 0 → div x y = x / y) :
    @weigh R (Magnitude.replacing log div) threshold tallies = weigh threshold tallies := by
  have hlogs : (qualifying threshold tallies).mapM (@Tally.log R (Magnitude.replacing log div))
      = .ok (qualifyingLogs threshold tallies) := by
    rw [mapM_eq_ok, qualifyingLogs, List.forall₂_map_right_iff, List.forall₂_same]
    intro t ht
    obtain ⟨x, hx, hcount, heq⟩ := hfits.countLog_mem ht
    obtain ⟨hfinite, hone⟩ := one_le_of_mem_weighed hx
    rw [heq, ← hlog x hfinite hone]
    exact (@log_eq_ok_iff R (Magnitude.replacing log div) t _).2 ⟨x, hcount, rfl⟩
  rw [weigh_eq_map hfits]
  simp only [weigh, bind_eq_ok, pure_eq_ok]
  refine ⟨_, hlogs, ?_⟩
  rw [spread_replacing (spannable_qualifyingLogs hfits hspan) hdiv]
  exact map_zip_spread threshold tallies

end

/-- Every tally that qualifies gets one weight, in the order of the tallies; the weights are on the
scale, and nothing undefined was worked out for them. -/
theorem weigh_onScale (hfits : Fits R threshold tallies)
    (hlog : LogMonotone (weighed threshold tallies : Set R)) :
    (∃ weight : Int → R,
      weigh threshold tallies
          = .ok ((tallies.filter fun t => threshold ≤ t.count).map fun t =>
              ⟨t.name, weight t.count⟩)
        ∧ OnScale (tallies.filter fun t => threshold ≤ t.count) weight)
    ∧ (∀ x ∈ (weighed threshold tallies : Set R), 1 ≤ value x)
    ∧ ∀ (log : R → R) (div : R → R → R),
        (∀ x, IsFinite x → 1 ≤ value x → log x = Magnitude.log x) →
        (∀ x y, IsFinite x → IsFinite y → value y ≠ 0 → div x y = x / y) →
          @weigh R (Magnitude.replacing log div) threshold tallies = weigh threshold tallies := by
  refine ⟨⟨countWeight threshold tallies, weigh_eq_map hfits, onScale_countWeight hfits hlog⟩,
    fun x hx => (one_le_of_mem_weighed hx).2, fun log div hlog' hdiv => ?_⟩
  exact weigh_congr hfits hlog.spannable hlog' hdiv

/-! ## A logarithm that is written down -/

/-- The logarithms of one, ten and a hundred, rounded to doubles. -/
def tabledLog (x : Float) : Float :=
  if x == 10 then 2.302585092994046 else if x == 100 then 4.605170185988092 else 0

/-- Doubles with the logarithm that is written down. -/
def Tabled : Type := Float

deriving instance DecidableEq for Tabled

instance : Magnitude Tabled := @Magnitude.replacing Float _ tabledLog (· / ·)

noncomputable instance : Rounded Tabled := Rounded.withLog tabledLog

/-- The numbers that it is written down for. -/
def tabled : List Float := [1, 10, 100]

theorem tabledLog_finite : ∀ x ∈ tabled,
    (Number.Datum.ofFloat x).IsFinite ∧ (Number.Datum.ofFloat (tabledLog x)).IsFinite := by
  decide +kernel

theorem tabledLog_nonneg : ∀ x ∈ tabled, Magnitude.less (tabledLog x) 0 = false := by
  decide +kernel

theorem tabledLog_mono : ∀ x ∈ tabled, ∀ y ∈ tabled,
    Magnitude.less (tabledLog y) (tabledLog x) = true → Magnitude.less y x = true := by
  decide +kernel

section

variable {xs : Set Tabled} (hxs : ∀ x ∈ xs, x ∈ tabled)

include hxs

theorem finite_tabled : ∀ x ∈ xs, IsFinite x ∧ IsFinite (Magnitude.log x) :=
  fun x hx => tabledLog_finite x (hxs x hx)

theorem nonneg_tabled : ∀ x ∈ xs, 0 ≤ value (Magnitude.log x) :=
  fun x hx => Number.value_nonneg_of_less (finite_tabled hxs x hx).2 (tabledLog_nonneg x (hxs x hx))

theorem logMonotone_tabled : LogMonotone xs :=
  logMonotone_of_less (fun x hx => (finite_tabled hxs x hx).1)
    (fun x hx => ⟨(finite_tabled hxs x hx).2, nonneg_tabled hxs x hx⟩)
    fun x hx y hy => tabledLog_mono x (hxs x hx) y (hxs y hy)

end

section

variable {threshold : Int} {tallies : List Tally}
  (h : ∀ t ∈ qualifying threshold tallies, ∃ x ∈ tabled,
    (Magnitude.ofInt? (max t.count 1) : Option Float) = some x)

include h

theorem fits_tabled : Fits Tabled threshold tallies := by
  intro t ht hcount
  obtain ⟨x, -, hx⟩ := h t (mem_qualifying.2 ⟨ht, hcount⟩)
  exact ⟨x, hx⟩

theorem mem_tabled : ∀ x ∈ (weighed threshold tallies : Set Tabled), x ∈ tabled := by
  rintro x ⟨t, ht, hx⟩
  obtain ⟨y, hy, heq⟩ := h t ht
  obtain rfl : y = x := Option.some.inj (heq.symm.trans hx)
  exact hy

end

/-- Tallies with a count below zero, a zero, and three powers of ten. -/
def scattered : List Tally :=
  [⟨"b", 10⟩, ⟨"e", -3⟩, ⟨"c", 100⟩, ⟨"a", 0⟩, ⟨"d", 1⟩]

theorem weigh_onScale_scattered :
    Fits Tabled (-1) scattered ∧ LogMonotone (weighed (-1) scattered : Set Tabled)
      ∧ ∃ weight : Int → Tabled,
        weigh (-1) scattered
            = .ok [⟨"b", weight 10⟩, ⟨"c", weight 100⟩, ⟨"a", weight 0⟩, ⟨"d", weight 1⟩]
          ∧ OnScale [⟨"b", 10⟩, ⟨"c", 100⟩, ⟨"a", 0⟩, ⟨"d", 1⟩] weight
          ∧ [weight 10, weight 100, weight 0, weight 1]
            = [(0.5 : Float), (1 : Float), (0 : Float), (0 : Float)] := by
  have htabled : ∀ t ∈ qualifying (-1) scattered, ∃ x ∈ tabled,
      (Magnitude.ofInt? (max t.count 1) : Option Float) = some x := by decide +kernel
  have hfits := fits_tabled htabled
  have hlog := logMonotone_tabled (mem_tabled htabled)
  obtain ⟨weight, hweigh, hscale⟩ := (weigh_onScale hfits hlog).1
  have hlabels : weigh (-1) scattered
      = .ok ([⟨"b", (0.5 : Float)⟩, ⟨"c", (1 : Float)⟩, ⟨"a", (0 : Float)⟩, ⟨"d", (0 : Float)⟩]
        : List (Label Tabled)) := by decide +kernel
  refine ⟨hfits, hlog, weight, hweigh, hscale, ?_⟩
  rw [hlabels, Except.ok.injEq] at hweigh
  exact (congrArg (List.map Label.weight) hweigh).symm

end TagCloud
