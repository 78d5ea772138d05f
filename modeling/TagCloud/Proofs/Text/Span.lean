import TagCloud.Text.Front
import TagCloud.Text.Word

/-!
# Taking a run of characters off a text

Readers take characters off the front of a text as long as they are of one kind. On a text that was
put together from such a run and something that does not go on with it, they find the run again.

Whether something holds of every character of a text is decided along the text. It could be decided
along all the characters there are as well, since they are finitely many, but not in our time; the
instances here come first.
-/

namespace TagCloud.Text

section

variable {p : Char → Prop} [DecidablePred p]

instance (priority := high) decidableForallMem (cs : List Char) : Decidable (∀ c ∈ cs, p c) :=
  List.decidableBAll p cs

instance (priority := high) decidableForallMemOption (c? : Option Char) :
    Decidable (∀ c ∈ c?, p c) :=
  match c? with
  | none => isTrue fun _ h => nomatch h
  | some c =>
    decidable_of_iff (p c)
      ⟨fun h _ hc => Option.some.inj hc ▸ h, fun h => h c rfl⟩

end

variable {p : Char → Bool} {run rest : List Char}

/-- A text does not go on with a character of a kind. -/
def Stops (p : Char → Bool) (rest : List Char) : Prop :=
  ∀ c ∈ rest.head?, p c = false

theorem stops_cons {c : Char} (h : p c = false) : Stops p (c :: rest) := by
  simpa [Stops] using h

theorem stops_dropWhile (p : Char → Bool) (cs : List Char) : Stops p (cs.dropWhile p) := by
  induction cs with
  | nil => exact fun c hc => absurd hc (by simp)
  | cons c cs ih =>
      cases hc : p c with
      | true => rwa [List.dropWhile_cons_of_pos hc]
      | false =>
          rw [List.dropWhile_cons_of_neg (by simp [hc])]
          exact stops_cons hc

theorem takeWhile_append_stop (hrun : ∀ c ∈ run, p c = true) (hrest : Stops p rest) :
    (run ++ rest).takeWhile p = run := by
  rw [List.takeWhile_append_of_pos hrun]
  cases rest with
  | nil => rw [List.takeWhile_nil, List.append_nil]
  | cons c rest =>
      rw [List.takeWhile_cons_of_neg (by simp [hrest c rfl]), List.append_nil]

theorem dropWhile_append_stop (hrun : ∀ c ∈ run, p c = true) (hrest : Stops p rest) :
    (run ++ rest).dropWhile p = rest := by
  rw [List.dropWhile_append_of_pos hrun]
  cases rest with
  | nil => rfl
  | cons c rest => rw [List.dropWhile_cons_of_neg (by simp [hrest c rfl])]

theorem endsWord_of_stops (h : Stops isWord rest) : endsWord rest = true := by
  cases rest with
  | nil => rfl
  | cons c rest => rw [endsWord, h c rfl]; rfl

theorem behind?_append (word cs : List Char) : behind? word (word ++ cs) = some cs :=
  behind?_eq_some_iff.2 rfl

end TagCloud.Text
