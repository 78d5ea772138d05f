import TagCloud.File.Path
import TagCloud.Proofs.Text.Span

/-!
# Paths as texts

A path is shown as its names with a slash between them, and a name holds no slash, so the text of a
path is cut where the names were joined. Reading it gives the path back, whatever it begins with.
-/

namespace TagCloud.File

/-- What stands between two slashes of a path: something other than a single dot. -/
structure IsName (name : String) : Prop where
  nonempty : name ≠ ""
  notHere : name ≠ "."
  whole : '/' ∉ name.toList

variable {names : List String}

theorem cutAtSlashes_eq_splitOn (cs : List Char) : cutAtSlashes cs = cs.splitOn '/' := by
  induction cs with
  | nil => rfl
  | cons c cs ih =>
      rw [cutAtSlashes, ih, List.splitOn_cons_eq_if_modifyHead]
      by_cases h : c = '/'
      · simp [h]
      · have hne : cs.splitOn '/' ≠ [] := List.splitOn_ne_nil _ _
        cases hcut : cs.splitOn '/' with
        | nil => exact absurd hcut hne
        | cons name rest => simp [h]

/-- Names that were joined are found again. -/
theorem namesOf_intercalate (h : ∀ name ∈ names, IsName name) :
    namesOf (['/'].intercalate (names.map String.toList)) = names := by
  have hcut : names ≠ [] → cutAtSlashes (['/'].intercalate (names.map String.toList))
      = names.map String.toList := by
    intro hne
    rw [cutAtSlashes_eq_splitOn, List.splitOn_intercalate]
    · intro cs hcs
      obtain ⟨name, hname, rfl⟩ := List.mem_map.1 hcs
      exact (h name hname).whole
    · simpa using hne
  have hkept : (names.map String.toList).filter (fun cs => !cs.isEmpty && cs != ['.'])
      = names.map String.toList := by
    refine List.filter_eq_self.2 fun cs hcs => ?_
    obtain ⟨name, hname, rfl⟩ := List.mem_map.1 hcs
    have hempty : name.toList ≠ [] := fun heq =>
      (h name hname).nonempty (String.toList_inj.1 heq)
    have hhere : name.toList ≠ ['.'] := fun heq => (h name hname).notHere (String.toList_inj.1 heq)
    simp [hempty, hhere]
  by_cases hne : names = []
  · rw [hne]
    rfl
  · rw [namesOf, hcut hne, hkept, List.map_map]
    simp

theorem namesOf_slash (cs : List Char) : namesOf ('/' :: cs) = namesOf cs := by
  rw [namesOf, namesOf, cutAtSlashes, if_pos rfl]
  rfl

theorem namesOf_append_slash (front cs : List Char) :
    namesOf (front ++ '/' :: cs) = namesOf front ++ namesOf cs := by
  have hcut : cutAtSlashes (front ++ '/' :: cs) = cutAtSlashes front ++ cutAtSlashes cs := by
    simp only [cutAtSlashes_eq_splitOn]
    exact List.splitOnP_append_cons front cs (by simp)
  rw [namesOf, hcut, List.filter_append, List.map_append]
  rfl

/-- What stands before a slash or the end is read on its own. -/
theorem namesOf_append {cs : List Char} (front : List Char) (h : Text.Stops (· ≠ '/') cs) :
    namesOf (front ++ cs) = namesOf front ++ namesOf cs := by
  cases cs with
  | nil =>
      have hnil : namesOf [] = [] := rfl
      rw [hnil, List.append_nil, List.append_nil]
  | cons c cs =>
      obtain rfl : c = '/' := by simpa using h c rfl
      rw [namesOf_append_slash, namesOf_slash]

theorem namesOf_name {name : String} (h : IsName name) : namesOf name.toList = [name] := by
  have hjoined : namesOf (['/'].intercalate ([name].map String.toList)) = [name] :=
    namesOf_intercalate (by simpa using h)
  simpa [List.intercalate] using hjoined

/-- Joining names adds nothing but slashes. -/
theorem mem_intercalate_slash {c : Char} {texts : List (List Char)}
    (h : c ∈ ['/'].intercalate texts) : c = '/' ∨ ∃ cs ∈ texts, c ∈ cs := by
  induction texts with
  | nil => exact absurd h (by simp)
  | cons cs texts ih =>
      cases texts with
      | nil => exact Or.inr ⟨cs, List.mem_cons_self, by simpa using h⟩
      | cons next texts =>
          rw [List.intercalate_cons_cons, List.mem_append, List.mem_append,
            List.mem_singleton] at h
          rcases h with (hfirst | rfl) | hrest
          · exact Or.inr ⟨cs, List.mem_cons_self, hfirst⟩
          · exact Or.inl rfl
          · rcases ih hrest with rfl | ⟨ds, hds, hmem⟩
            · exact Or.inl rfl
            · exact Or.inr ⟨ds, List.mem_cons_of_mem cs hds, hmem⟩

/-- Joined names do not begin with a slash. -/
theorem takeWhile_intercalate (h : ∀ name ∈ names, IsName name) :
    (['/'].intercalate (names.map String.toList)).takeWhile (· = '/') = [] := by
  cases names with
  | nil => rfl
  | cons name names =>
      have hname := h name List.mem_cons_self
      cases hcs : name.toList with
      | nil => exact absurd (String.toList_inj.1 hcs) hname.nonempty
      | cons c cs =>
          have hc : c ≠ '/' := by
            rintro rfl
            exact hname.whole (by rw [hcs]; exact List.mem_cons_self)
          cases names with
          | nil => simp [hcs, hc]
          | cons next names => simp [hcs, hc]

namespace Path

theorem toList_text (root : Root) (names : List String) (h : root = .here → names ≠ []) :
    (text ⟨root, names⟩).toList
      = (rootText root).toList ++ ['/'].intercalate (names.map String.toList) := by
  have hshown : ¬ ((root = .here && names.isEmpty) = true) := by
    intro hboth
    simp only [Bool.and_eq_true, decide_eq_true_eq, List.isEmpty_iff] at hboth
    exact h hboth.1 hboth.2
  rw [text, if_neg hshown, String.toList_append, String.toList_intercalate]
  rfl

/-- The text of a path denotes the path. -/
theorem ofText_text {p : Path} (h : ∀ name ∈ p.names, IsName name) : ofText p.text = p := by
  obtain ⟨root, names⟩ := p
  have hnames := namesOf_intercalate h
  have hfront := takeWhile_intercalate h
  cases root with
  | here =>
      by_cases hne : names = []
      · rw [hne]
        decide
      · rw [ofText, toList_text _ _ fun _ => hne]
        simp only [rootText, rootOf, hnames, hfront, String.toList_empty, List.nil_append,
          List.length_nil]
  | top =>
      rw [ofText, toList_text _ _ (by simp)]
      have hroot : (rootText .top).toList = ['/'] := by decide
      simp [hroot, namesOf_slash, rootOf, hnames, hfront]
  | doubled =>
      rw [ofText, toList_text _ _ (by simp)]
      have hroot : (rootText .doubled).toList = ['/', '/'] := by decide
      simp [hroot, namesOf_slash, rootOf, hnames, hfront]

end Path

end TagCloud.File
