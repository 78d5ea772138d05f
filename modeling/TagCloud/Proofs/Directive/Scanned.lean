import TagCloud.Proofs.Dictionary
import TagCloud.Proofs.Directive.Fragments

/-!
# Reading a directive in one pass

The cutter of directives takes a whole group at a time and goes back over a fragment to trim it and
to find its colon. What it arrives at can be said without any of that. A scan of the directive from
left to right has to remember one thing, whether it is inside a group, and cuts at each comma that
it meets outside. The pieces are what the directive says, and of what is said about a key the last
counts.

The two are compared through the texts that the scan passes over without a cut. Such a text goes as
a whole to the front of the first piece behind it, and a fragment is the longest text of this kind.
-/

namespace TagCloud.Directive

open TagCloud.Text

/-- Whether a scan is inside a group behind a character. -/
def groupStep (inside : Bool) (c : Char) : Bool :=
  if inside then c != '}' else c == '{'

/-- Whether a scan is inside a group at the end of a text. -/
def insideAfter (inside : Bool) (cs : List Char) : Bool :=
  cs.foldl groupStep inside

/-- The pieces of a text between the commas that a scan meets outside of groups. -/
def pieces (inside : Bool) : List Char → List (List Char)
  | [] => [[]]
  | c :: cs =>
    if c = ',' ∧ inside = false then [] :: pieces false cs
    else (pieces (groupStep inside c) cs).modifyHead (c :: ·)

/-- The key and the value of a piece, before and behind its first colon. -/
def keyAndValue? (piece : List Char) : Option (String × String) :=
  if ':' ∈ piece then
    some (String.ofList (trim (piece.takeWhile (· ≠ ':'))),
      String.ofList (trim ((piece.dropWhile (· ≠ ':')).drop 1)))
  else none

/-- The keys and values of a directive, one for each piece that has some. -/
def said (directive : String) : List (String × String) :=
  (((pieces false directive.toList).map trim).filter (· ≠ [])).filterMap keyAndValue?

/-- Every comma of a text lies inside a group. -/
def Enclosed (inside : Bool) (cs : List Char) : Prop :=
  ∀ front back, cs = front ++ ',' :: back → insideAfter inside front = true

/-! ## Texts that are passed over -/

section

variable {inside : Bool} {cs front back : List Char}

theorem insideAfter_append :
    insideAfter inside (front ++ back) = insideAfter (insideAfter inside front) back :=
  List.foldl_append

theorem enclosed_nil : Enclosed inside [] :=
  fun _ _ h => absurd h (by simp)

theorem enclosed_cons_iff {c : Char} :
    Enclosed inside (c :: cs) ↔ (c = ',' → inside = true) ∧ Enclosed (groupStep inside c) cs := by
  constructor
  · intro h
    refine ⟨fun hc => h [] cs (by rw [hc]; rfl), fun front back hcs => ?_⟩
    exact h (c :: front) back (by rw [hcs]; rfl)
  · rintro ⟨hc, hcs⟩ front back heq
    cases front with
    | nil => exact hc (List.cons.inj heq).1
    | cons d front =>
        obtain ⟨hd, hrest⟩ := List.cons.inj heq
        exact hd ▸ hcs front back hrest

instance decidableEnclosed : (inside : Bool) → (cs : List Char) → Decidable (Enclosed inside cs)
  | _, [] => isTrue enclosed_nil
  | inside, c :: cs =>
    have := decidableEnclosed (groupStep inside c) cs
    decidable_of_iff _ enclosed_cons_iff.symm

theorem Enclosed.append (hfront : Enclosed inside front)
    (hback : Enclosed (insideAfter inside front) back) : Enclosed inside (front ++ back) := by
  induction front generalizing inside with
  | nil => exact hback
  | cons c front ih =>
      rw [enclosed_cons_iff] at hfront
      exact enclosed_cons_iff.2 ⟨hfront.1, ih hfront.2 hback⟩

/-- A text that is passed over goes to the front of the first piece behind it. -/
theorem pieces_append (h : Enclosed inside front) (back : List Char) :
    pieces inside (front ++ back)
      = (pieces (insideAfter inside front) back).modifyHead (front ++ ·) := by
  induction front generalizing inside with
  | nil => exact (congrFun List.modifyHead_id _).symm
  | cons c front ih =>
      rw [enclosed_cons_iff] at h
      have hcut : ¬ (c = ',' ∧ inside = false) := by
        rintro ⟨hc, hinside⟩
        rw [h.1 hc] at hinside
        exact absurd hinside (by simp)
      rw [List.cons_append, pieces, if_neg hcut, ih h.2, List.modifyHead_modifyHead]
      rfl

theorem pieces_of_enclosed (h : Enclosed inside cs) : pieces inside cs = [cs] := by
  have hpieces := pieces_append h []
  rw [List.append_nil] at hpieces
  rw [hpieces, pieces, List.modifyHead_cons, List.append_nil]

theorem pieces_ne_nil (inside : Bool) (cs : List Char) : pieces inside cs ≠ [] := by
  induction cs generalizing inside with
  | nil => simp [pieces]
  | cons c cs ih =>
      rw [pieces]
      split
      · simp
      · simpa using ih _

/-- At a comma behind a text that ends outside of groups the pieces fall apart. -/
theorem pieces_append_comma (h : insideAfter inside front = false) (back : List Char) :
    pieces inside (front ++ ',' :: back) = pieces inside front ++ pieces false back := by
  induction front generalizing inside with
  | nil =>
      have hinside : inside = false := h
      rw [hinside, List.nil_append, pieces.eq_2, if_pos ⟨rfl, rfl⟩]
      rfl
  | cons c front ih =>
      rw [List.cons_append, pieces, pieces]
      split
      · next hc => rw [ih (by simpa [insideAfter, groupStep, hc.1, hc.2] using h), List.cons_append]
      · obtain ⟨piece, more, heq⟩ :=
          List.exists_cons_of_ne_nil (pieces_ne_nil (groupStep inside c) front)
        rw [ih h, heq]
        rfl

theorem insideAfter_of_not_mem (h : '}' ∉ cs) : insideAfter true cs = true := by
  induction cs with
  | nil => rfl
  | cons c cs ih =>
      rw [List.mem_cons, not_or] at h
      have hstep : groupStep true c = true := bne_iff_ne.2 (Ne.symm h.1)
      rw [insideAfter, List.foldl_cons, hstep]
      exact ih h.2

/-- In a group that is not closed all commas are enclosed. -/
theorem enclosed_of_not_mem (h : '}' ∉ cs) : Enclosed true cs := by
  rintro front back rfl
  exact insideAfter_of_not_mem fun hmem => h (List.mem_append_left _ hmem)

end

/-! ## The cutter -/

/-- A text is cut at a comma outside of groups, the first one that there is, or not at all. -/
structure CutsOff (cs front rest : List Char) : Prop where
  text : cs = front ++ rest
  enclosed : Enclosed false front
  stops : rest = [] ∨ insideAfter false front = false ∧ ∃ back, rest = ',' :: back

section

variable {cs front rest : List Char}

/-- What is passed over may stand before what is cut off. -/
theorem CutsOff.append {pad : List Char} (hpad : Enclosed false pad)
    (hends : insideAfter false pad = false) (h : CutsOff cs front rest) :
    CutsOff (pad ++ cs) (pad ++ front) rest := by
  refine ⟨by rw [h.text, List.append_assoc], hpad.append (by rw [hends]; exact h.enclosed), ?_⟩
  rw [insideAfter_append, hends]
  exact h.stops

theorem cutsOff_cutFragment (cs : List Char) :
    CutsOff cs (cutFragment cs).1 (cutFragment cs).2 := by
  fun_induction cutFragment cs with
  | case1 => exact ⟨rfl, enclosed_nil, Or.inl rfl⟩
  | case2 cs => exact ⟨rfl, enclosed_nil, Or.inr ⟨rfl, cs, rfl⟩⟩
  | case3 cs group cut _ ih =>
      -- the group is passed over as a whole, up to its closing brace or else to the end
      by_cases hmem : '}' ∈ cs
      · obtain ⟨body, rest, rfl, hbody⟩ := List.eq_append_cons_of_mem hmem
        have hgroup : group = (body ++ ['}'], rest) := closeGroup_append hbody rest
        have hpad : Enclosed false ('{' :: (body ++ ['}'])) := by
          refine enclosed_cons_iff.2 ⟨by simp, (enclosed_of_not_mem hbody).append ?_⟩
          exact enclosed_cons_iff.2 ⟨by simp, enclosed_nil⟩
        have hends : insideAfter false ('{' :: (body ++ ['}'])) = false := by
          rw [← List.cons_append, insideAfter_append]
          exact congrArg (insideAfter · ['}']) (insideAfter_of_not_mem hbody)
        have hcut := CutsOff.append hpad hends ih
        simpa [cut, hgroup] using hcut
      · have hgroup : group = (cs, []) := closeGroup_of_not_mem hmem
        refine ⟨by simp [cut, hgroup, cutFragment], ?_, Or.inl (by simp [cut, hgroup, cutFragment])⟩
        simp only [cut, hgroup, cutFragment, List.append_nil]
        exact enclosed_cons_iff.2 ⟨by simp, enclosed_of_not_mem hmem⟩
  | case4 c cs hcomma hbrace cut ih =>
      have hstep : groupStep false c = false := beq_eq_false_iff_ne.2 hbrace
      have hpad : Enclosed false [c] :=
        enclosed_cons_iff.2 ⟨fun hc => absurd hc hcomma, enclosed_nil⟩
      exact CutsOff.append hpad hstep ih

/-- The fragments of a text are its pieces. -/
theorem fragments_eq_pieces (cs : List Char) : fragments cs = pieces false cs := by
  fun_induction fragments cs with
  | case1 cs front heq =>
      have hcut := cutsOff_cutFragment cs
      rw [heq] at hcut
      have htext : cs = front := by rw [hcut.text, List.append_nil]
      rw [htext, pieces_of_enclosed hcut.enclosed]
  | case2 cs front c rest heq ih =>
      have hcut := cutsOff_cutFragment cs
      rw [heq] at hcut
      obtain ⟨hends, back, hback⟩ := hcut.stops.resolve_left (by simp)
      rw [hcut.text, hback, pieces_append_comma hends, pieces_of_enclosed hcut.enclosed,
        ← (List.cons.inj hback).2, ← ih]
      rfl

end

/-! ## Keys and values -/

theorem entry?_eq_keyAndValue? (piece : List Char) : entry? piece = keyAndValue? piece := by
  by_cases hmem : ':' ∈ piece
  · obtain ⟨key, value, rfl, hkey⟩ := List.eq_append_cons_of_mem hmem
    have hall : ∀ c ∈ key, decide (c ≠ ':') = true :=
      fun c hc => decide_eq_true fun heq => hkey (heq ▸ hc)
    rw [entry?_append hkey, keyAndValue?, if_pos hmem, List.takeWhile_append_of_pos hall,
      List.dropWhile_append_of_pos hall]
    simp
  · rw [keyAndValue?, if_neg hmem, entry?, atColon_eq_none_iff.2 hmem]
    rfl

/-- Blanks around pieces and empty pieces say nothing. -/
theorem said_eq (directive : String) :
    said directive = (pieces false directive.toList).filterMap keyAndValue? := by
  have hempty : (fun piece : List Char => decide (piece ≠ [])) = fun piece => !piece.isEmpty := by
    funext piece
    cases piece with
    | nil => rfl
    | cons c piece => rfl
  rw [said, hempty, ← funext entry?_eq_keyAndValue?, filterMap_trimmed]

theorem split_eq_ofList (directive : String) :
    split directive = Dictionary.ofList (said directive) := by
  rw [split_eq, fragments_eq_pieces, said_eq, funext entry?_eq_keyAndValue?]

theorem said_append {front : String} (h : insideAfter false front.toList = false)
    (back : String) : said (front ++ "," ++ back) = said front ++ said back := by
  have htext : (front ++ "," ++ back).toList = front.toList ++ ',' :: back.toList := by
    simp [String.toList_append]
  rw [said_eq, said_eq, said_eq, htext, pieces_append_comma h, List.filterMap_append]

/-- A directive is taken apart as in one pass that only knows whether it is inside a group: the
last value of each key counts, in the place where the key first comes. Behind a directive that ends
outside of groups and a comma another directive brings the first one up to date. -/
theorem split_eq_lastOfEach (front : String) :
    split front = Dictionary.lastOfEach (said front) ∧
      ∀ back : String, insideAfter false front.toList = false →
        split (front ++ "," ++ back) = Dictionary.putAll (split back) (split front) := by
  refine ⟨?_, fun back h => ?_⟩
  · rw [split_eq_ofList, Dictionary.ofList_eq_lastOfEach]
  · rw [split_eq_ofList, said_append h, Dictionary.ofList_append, split_eq_ofList, split_eq_ofList]

/-- A group that is not closed at the first brace, and a key that comes once more behind it. -/
theorem split_eq_lastOfEach_reopened :
    insideAfter false "sort: freq, style: para {,{ }}, :x".toList = false ∧
      split "sort: freq, style: para {,{ }}, :x"
        = [("sort", "freq"), ("style", "para {,{ }}"), ("", "x")] ∧
      split ("sort: freq, style: para {,{ }}, :x" ++ "," ++ "limit: 3,sort:rand,red")
        = [("sort", "rand"), ("style", "para {,{ }}"), ("", "x"), ("limit", "3")] := by
  have hends : insideAfter false "sort: freq, style: para {,{ }}, :x".toList = false := by
    decide
  refine ⟨hends, ?_, ?_⟩
  · rw [(split_eq_lastOfEach _).1]
    decide
  · rw [(split_eq_lastOfEach _).2 _ hends, (split_eq_lastOfEach _).1, (split_eq_lastOfEach _).1]
    decide

end TagCloud.Directive
