import Mathlib.Data.List.Induction
import Mathlib.Data.List.Nodup
import TagCloud.Dictionary

/-!
# What a dictionary holds

A key of a dictionary has the value that it was given last. Two dictionaries that were put together
from different pairs are therefore told apart by the last pair of each key and by nothing else, and
a key that was given only once has the value that it was given.
-/

namespace TagCloud.Dictionary

variable {κ α : Type} [DecidableEq κ]

theorem get?_put (key : κ) (k : κ) (value : α) (d : Dictionary κ α) :
    (d.put k value).get? key = if k = key then some value else d.get? key := by
  induction d with
  | nil => rfl
  | cons entry d ih =>
      obtain ⟨k', v'⟩ := entry
      rw [put]
      split
      · next hk =>
          rw [hk, get?, get?]
          split
          · rfl
          · rfl
      · next hk =>
          rw [get?, get?, ih]
          split
          · next hkey => rw [if_neg fun h => hk (hkey.trans h.symm)]
          · rfl

theorem get?_putAll (key : κ) (entries : List (κ × α)) (d : Dictionary κ α) :
    (putAll entries d).get? key
      = ((entries.filter (·.1 = key)).getLast?.map (·.2)).or (d.get? key) := by
  induction entries generalizing d with
  | nil => rfl
  | cons entry entries ih =>
      have hcons : putAll (entry :: entries) d = putAll entries (d.put entry.1 entry.2) := rfl
      rw [hcons, ih, get?_put]
      by_cases hkey : entry.1 = key
      · rw [if_pos hkey, List.filter_cons_of_pos (by simpa using hkey), List.getLast?_cons]
        cases (entries.filter (·.1 = key)).getLast? with
        | none => rfl
        | some last => rfl
      · rw [if_neg hkey, List.filter_cons_of_neg (by simpa using hkey)]

/-- A key has the value of the last pair with that key. -/
theorem get?_ofList (key : κ) (entries : List (κ × α)) :
    (ofList entries).get? key = (entries.filter (·.1 = key)).getLast?.map (·.2) := by
  rw [ofList, get?_putAll, get?, Option.or_none]

/-- Without the pairs of a key, only that key has no value. -/
theorem get?_filter_ne (key k : κ) (d : Dictionary κ α) :
    get? key (d.filter fun entry => entry.1 ≠ k) = if key = k then none else d.get? key := by
  induction d with
  | nil => simp [get?]
  | cons entry d ih =>
      obtain ⟨k', v⟩ := entry
      by_cases hk : k' = k
      · rw [List.filter_cons_of_neg (by simp [hk]), ih, get?]
        split
        · rfl
        · next hne => rw [if_neg fun h => hne (h.symm.trans hk)]
      · rw [List.filter_cons_of_pos (by simp [hk]), get?, get?, ih]
        by_cases hkey : k' = key
        · rw [if_pos hkey, if_pos hkey, if_neg fun h => hk (hkey.trans h)]
        · rw [if_neg hkey, if_neg hkey]

/-! ## The order of the keys -/

/-- The last pair of each key, in the order in which the keys first come. -/
def lastOfEach (entries : List (κ × α)) : List (κ × α) :=
  (entries.map (·.1)).eraseDups.filterMap fun key => (entries.filter (·.1 = key)).getLast?

theorem ofList_concat (entries : List (κ × α)) (entry : κ × α) :
    ofList (entries ++ [entry]) = (ofList entries).put entry.1 entry.2 :=
  List.foldl_concat _ _ _ _

theorem map_fst_put (key : κ) (value : α) (d : Dictionary κ α) :
    (d.put key value).map (·.1)
      = if key ∈ d.map (·.1) then d.map (·.1) else d.map (·.1) ++ [key] := by
  induction d with
  | nil => rfl
  | cons entry d ih =>
      obtain ⟨k, v⟩ := entry
      rw [put]
      by_cases hk : k = key
      · simp [hk]
      · rw [if_neg hk, List.map_cons, ih]
        by_cases hmem : key ∈ d.map (·.1)
        · simp [hmem]
        · simp [hmem, Ne.symm hk]

theorem nodup_put {key : κ} {value : α} {d : Dictionary κ α} (h : (d.map (·.1)).Nodup) :
    ((d.put key value).map (·.1)).Nodup := by
  rw [map_fst_put]
  split
  · exact h
  · next hmem => exact List.nodup_append_comm.1 (List.nodup_cons.2 ⟨hmem, h⟩)

theorem nodup_ofList (entries : List (κ × α)) : ((ofList entries).map (·.1)).Nodup := by
  induction entries using List.reverseRecOn with
  | nil => exact List.nodup_nil
  | append_singleton entries entry ih =>
      rw [ofList_concat]
      exact nodup_put ih

/-- A key keeps the place where it first came. -/
theorem map_fst_ofList (entries : List (κ × α)) :
    (ofList entries).map (·.1) = (entries.map (·.1)).eraseDups := by
  induction entries using List.reverseRecOn with
  | nil => rfl
  | append_singleton entries entry ih =>
      rw [ofList_concat, map_fst_put, ih, List.map_append, List.map_singleton,
        List.eraseDups_append, List.removeAll]
      by_cases hmem : entry.1 ∈ entries.map (·.1)
      · rw [if_pos (List.mem_eraseDups.2 hmem)]
        simp [hmem]
      · rw [if_neg (mt List.mem_eraseDups.1 hmem)]
        simp [hmem, List.eraseDups_cons]

/-- A dictionary is told by the order of its keys and by their values. -/
theorem eq_filterMap_get? {d : Dictionary κ α} (h : (d.map (·.1)).Nodup) :
    d = (d.map (·.1)).filterMap fun key => (get? key d).map (key, ·) := by
  induction d with
  | nil => rfl
  | cons entry d ih =>
      obtain ⟨k, v⟩ := entry
      rw [List.map_cons, List.nodup_cons] at h
      have hrest : (d.map (·.1)).filterMap (fun key => (get? key ((k, v) :: d)).map (key, ·))
          = (d.map (·.1)).filterMap fun key => (get? key d).map (key, ·) := by
        refine List.filterMap_congr fun key hkey => ?_
        rw [get?, if_neg (ne_of_mem_of_not_mem hkey h.1).symm]
      rw [List.map_cons, List.filterMap_cons_some (b := (k, v)) (by simp [get?]), hrest, ← ih h.2]

/-- Each key of a list of pairs has its last value, in the place where it first came. -/
theorem ofList_eq_lastOfEach (entries : List (κ × α)) : ofList entries = lastOfEach entries := by
  rw [eq_filterMap_get? (nodup_ofList entries), map_fst_ofList, lastOfEach]
  refine List.filterMap_congr fun key _ => ?_
  rw [get?_ofList]
  cases hlast : (entries.filter (·.1 = key)).getLast? with
  | none => rfl
  | some entry =>
      have hkey : entry.1 = key := by simpa using List.of_mem_filter (List.mem_of_getLast? hlast)
      rw [Option.map_some, Option.map_some, ← hkey]

/-! ## One dictionary after another -/

/-- Of two values that a key is given only the second shows. -/
theorem put_put_self (key : κ) (v₁ v₂ : α) (d : Dictionary κ α) :
    (d.put key v₁).put key v₂ = d.put key v₂ := by
  induction d with
  | nil => simp [put]
  | cons entry d ih =>
      obtain ⟨k, v⟩ := entry
      by_cases hk : k = key
      · simp [put, hk]
      · simp [put, hk, ih]

/-- A key that has its place may be given its value before or after another one. -/
theorem put_comm {k₁ k₂ : κ} {d : Dictionary κ α} (hne : k₁ ≠ k₂) (hmem : k₁ ∈ d.map (·.1))
    (v₁ v₂ : α) : (d.put k₂ v₂).put k₁ v₁ = (d.put k₁ v₁).put k₂ v₂ := by
  induction d with
  | nil => exact absurd hmem (by simp)
  | cons entry d ih =>
      obtain ⟨k, v⟩ := entry
      rw [List.map_cons, List.mem_cons] at hmem
      by_cases h₁ : k = k₁
      · simp [put, h₁, hne]
      · have hrest : k₁ ∈ d.map (·.1) := hmem.resolve_left fun h => h₁ h.symm
        by_cases h₂ : k = k₂
        · simp [put, h₂, hne.symm]
        · simp [put, h₁, h₂, ih hrest]

theorem putAll_put_of_not_mem {key : κ} {entries : List (κ × α)} {d : Dictionary κ α}
    (hnot : key ∉ entries.map (·.1)) (hmem : key ∈ d.map (·.1)) (value : α) :
    (putAll entries d).put key value = putAll entries (d.put key value) := by
  induction entries generalizing d with
  | nil => rfl
  | cons entry entries ih =>
      rw [List.map_cons, List.mem_cons, not_or] at hnot
      have hkept : key ∈ (d.put entry.1 entry.2).map (·.1) := by
        rw [map_fst_put]
        split
        · exact hmem
        · exact List.mem_append_left _ hmem
      have hcons : ∀ d : Dictionary κ α,
          putAll (entry :: entries) d = putAll entries (d.put entry.1 entry.2) := fun _ => rfl
      rw [hcons, hcons, ih hnot.2 hkept, put_comm hnot.1 hmem]

/-- Putting a value into the dictionary that is put on another one is putting it last. -/
theorem putAll_put {e : Dictionary κ α} (h : (e.map (·.1)).Nodup) (key : κ) (value : α)
    (d : Dictionary κ α) : putAll (e.put key value) d = (putAll e d).put key value := by
  induction e generalizing d with
  | nil => rfl
  | cons entry e ih =>
      obtain ⟨k, v⟩ := entry
      rw [List.map_cons, List.nodup_cons] at h
      have hcons : ∀ v : α, putAll ((k, v) :: e) d = putAll e (d.put k v) := fun _ => rfl
      rw [put]
      by_cases hk : k = key
      · have hmem : key ∈ (d.put k v).map (·.1) := by
          rw [map_fst_put, hk]
          split
          · assumption
          · simp
        rw [if_pos hk, hcons v, putAll_put_of_not_mem (hk ▸ h.1) hmem, ← hk, put_put_self, hcons]
      · rw [if_neg hk, hcons v]
        exact ih h.2 (d.put k v)

/-- Putting a dictionary is putting the pairs from which it was made. -/
theorem putAll_ofList (entries : List (κ × α)) (d : Dictionary κ α) :
    putAll (ofList entries) d = putAll entries d := by
  induction entries using List.reverseRecOn with
  | nil => rfl
  | append_singleton entries entry ih =>
      have hconcat : putAll (entries ++ [entry]) d = (putAll entries d).put entry.1 entry.2 :=
        List.foldl_concat _ _ _ _
      rw [ofList_concat, putAll_put (nodup_ofList entries), ih, hconcat]

/-- The dictionary of two lists of pairs is that of the first, brought up to date by that of the
second. -/
theorem ofList_append (front back : List (κ × α)) :
    ofList (front ++ back) = putAll (ofList back) (ofList front) := by
  rw [putAll_ofList]
  exact List.foldl_append

end TagCloud.Dictionary
