import Mathlib.Algebra.Group.Nat.Defs
import TagCloud.Json.Literal
import TagCloud.Template.Literal

/-!
# JSON strings as literals of a template

A directive in a tag is handed on as a JSON string, and what reads it there is the reader of string
literals, which knows other escapes and unifies line ends. The two languages agree on all that is
ever written: a written string ends at its own closing quote, and read as a literal it is the text
that it was written from, whatever characters the text holds.

Both halves go from character to character. A character is written as itself or with a backslash in
front, and the reader takes what a backslash stands before along with it; characters beyond ASCII,
which are written as themselves, become escapes only inside the reader.

Where a string ends can also be said without the reader, by the grammar of string tokens. The one
thing that the grammar leaves open is where to stop, and there it leaves no choice: of two tokens at
the front of one text neither goes on behind the closing quote of the other.
-/

namespace TagCloud.Template

open TagCloud.Text TagCloud.Json

/-! ## Hexadecimal digits -/

theorem hexDigit_solid : ∀ n < 16, hexDigit? (hexDigit n) = some n ∧ hexDigit n ≠ '"'
    ∧ hexDigit n ≠ '\\' ∧ 32 ≤ (hexDigit n).toNat ∧ (hexDigit n).toNat < 128 := by
  decide

theorem length_hexDigits (width n : Nat) : (hexDigits width n).length = width := by
  induction width generalizing n with
  | zero => rfl
  | succ width ih => rw [hexDigits, List.length_append, ih, List.length_singleton]

theorem exists_of_mem_hexDigits {width n : Nat} {c : Char} (h : c ∈ hexDigits width n) :
    ∃ d < 16, c = hexDigit d := by
  induction width generalizing n with
  | zero => exact absurd h (by simp [hexDigits])
  | succ width ih =>
      rw [hexDigits, List.mem_append, List.mem_singleton] at h
      rcases h with h | rfl
      · exact ih h
      · exact ⟨n % 16, Nat.mod_lt _ (by decide), rfl⟩

theorem hexNumber?_hexDigits {width n : Nat} (h : n < 16 ^ width) :
    hexNumber? (hexDigits width n) = some n := by
  induction width generalizing n with
  | zero =>
      rw [Nat.pow_zero, Nat.lt_one_iff] at h
      rw [h]
      rfl
  | succ width ih =>
      have hfront : n / 16 < 16 ^ width := by
        rw [Nat.pow_succ] at h
        omega
      have hlast := (hexDigit_solid (n % 16) (Nat.mod_lt _ (by decide))).1
      have hsplit : n / 16 * 16 + n % 16 = n := by omega
      have hih := ih hfront
      rw [hexNumber?] at hih ⊢
      rw [hexDigits, List.foldl_append, hih]
      simp [hlast, hsplit]

/-! ## Where a string ends -/

/-- What may stand between the quotes of a string token: characters other than a quote and a
backslash, and backslashes with any character behind them. -/
inductive StringInside : List Char → Prop
  | nil : StringInside []
  | plain {c : Char} {cs : List Char} (hquote : c ≠ '"') (hslash : c ≠ '\\') (h : StringInside cs) :
      StringInside (c :: cs)
  | escaped {c : Char} {cs : List Char} (h : StringInside cs) : StringInside ('\\' :: c :: cs)

/-- A string token in double quotes. -/
inductive StringToken : List Char → Prop
  | mk {inside : List Char} (h : StringInside inside) : StringToken ('"' :: inside ++ ['"'])

theorem StringInside.append {front back : List Char} (hfront : StringInside front)
    (hback : StringInside back) : StringInside (front ++ back) := by
  induction hfront with
  | nil => exact hback
  | plain hquote hslash _ ih => exact .plain hquote hslash ih
  | escaped _ ih => exact .escaped ih

theorem stringInside_of_forall {cs : List Char} (h : ∀ c ∈ cs, c ≠ '"' ∧ c ≠ '\\') :
    StringInside cs := by
  induction cs with
  | nil => exact .nil
  | cons c cs ih =>
      have hc := h c List.mem_cons_self
      exact .plain hc.1 hc.2 (ih fun d hd => h d (List.mem_cons_of_mem c hd))

/-- The reader of a literal passes over a text. -/
def Inside (cs : List Char) : Prop :=
  ∀ rest, literalInside? '"' (cs ++ rest)
    = (literalInside? '"' rest).map fun (inside, behind) => (cs ++ inside, behind)

theorem inside_nil : Inside [] := by
  intro rest
  simp only [List.nil_append, Option.map_id']

theorem Inside.append {front back : List Char} (hfront : Inside front) (hback : Inside back) :
    Inside (front ++ back) := by
  intro rest
  rw [List.append_assoc, hfront, hback, Option.map_map]
  simp only [Function.comp_def, List.append_assoc]

theorem inside_singleton {c : Char} (hquote : c ≠ '"') (hslash : c ≠ '\\') : Inside [c] := by
  intro rest
  rw [List.singleton_append, literalInside?, if_neg hquote]
  · rfl
  · exact fun _ _ heq _ => absurd heq hslash

theorem inside_pair (c : Char) : Inside ['\\', c] := by
  intro rest
  rw [List.cons_append, List.singleton_append, literalInside?]
  rfl

/-- The reader of a literal passes over what may stand between the quotes. -/
theorem StringInside.inside {cs : List Char} (h : StringInside cs) : Inside cs := by
  induction h with
  | nil => exact inside_nil
  | plain hquote hslash _ ih => exact (inside_singleton hquote hslash).append ih
  | @escaped c cs _ ih => exact (inside_pair c).append ih

theorem StringInside.literal? {cs : List Char} (h : StringInside cs) (rest : List Char) :
    literal? ('"' :: cs ++ ['"'] ++ rest) = some (cs, rest) := by
  rw [List.append_assoc, List.cons_append, Template.literal?, if_pos (by decide), h.inside]
  simp [literalInside?]

/-- One text begins with one token at most. -/
theorem StringToken.eq_of_prefix {token token' text : List Char} (h : StringToken token)
    (h' : StringToken token') (hp : token <+: text) (hp' : token' <+: text) : token = token' := by
  obtain ⟨rest, rfl⟩ := hp
  obtain ⟨rest', htext⟩ := hp'
  cases h with
  | mk hinside =>
      cases h' with
      | mk hinside' =>
          have hsame := hinside'.literal? rest'
          rw [htext, hinside.literal? rest, Option.some.injEq, Prod.mk.injEq] at hsame
          rw [hsame.1]

/-! ## JSON strings as tokens -/

/-- The ways in which a character is written: with a letter behind a backslash, with its number, or
as itself. -/
theorem literalChar_cases (c : Char) :
    (∃ letter, literalChar c = ['\\', letter] ∧ letterEscape? letter = some c
        ∧ 32 ≤ letter.toNat ∧ letter.toNat < 128)
      ∨ (c.toNat < 32 ∧ literalChar c = '\\' :: 'u' :: hexDigits 4 c.toNat)
      ∨ (literalChar c = [c] ∧ c ≠ '"' ∧ c ≠ '\\' ∧ 32 ≤ c.toNat) := by
  unfold literalChar
  split
  · next h => exact Or.inl ⟨_, rfl, by rw [h]; decide, by decide, by decide⟩
  split
  · next h => exact Or.inl ⟨_, rfl, by rw [h]; decide, by decide, by decide⟩
  split
  · next h => exact Or.inl ⟨_, rfl, by rw [h]; decide, by decide, by decide⟩
  split
  · next h => exact Or.inl ⟨_, rfl, by rw [h]; decide, by decide, by decide⟩
  split
  · next h => exact Or.inl ⟨_, rfl, by rw [h]; decide, by decide, by decide⟩
  split
  · next h => exact Or.inl ⟨_, rfl, by rw [h]; decide, by decide, by decide⟩
  split
  · next h => exact Or.inl ⟨_, rfl, by rw [h]; decide, by decide, by decide⟩
  split
  · next h => exact Or.inr (Or.inl ⟨h, rfl⟩)
  · next hquote hslash _ _ _ _ _ hlow =>
      exact Or.inr (Or.inr ⟨rfl, hquote, hslash, Nat.not_lt.1 hlow⟩)

theorem stringInside_literalChar (c : Char) : StringInside (literalChar c) := by
  rcases literalChar_cases c with ⟨letter, h, -⟩ | ⟨-, h⟩ | ⟨h, hquote, hslash, -⟩
  · rw [h]
    exact .escaped .nil
  · rw [h]
    refine .escaped (stringInside_of_forall fun d hd => ?_)
    obtain ⟨n, hn, rfl⟩ := exists_of_mem_hexDigits hd
    obtain ⟨-, hquote, hslash, -⟩ := hexDigit_solid n hn
    exact ⟨hquote, hslash⟩
  · rw [h]
    exact .plain hquote hslash .nil

theorem stringInside_literalBody (cs : List Char) : StringInside (literalBody cs) := by
  induction cs with
  | nil => exact .nil
  | cons c cs ih => exact (stringInside_literalChar c).append ih

theorem stringToken_literal (cs : List Char) : StringToken (Json.literal cs) :=
  .mk (stringInside_literalBody cs)

/-- A JSON string is read as one literal, whatever follows it. -/
theorem literal?_literal (cs rest : List Char) :
    literal? (Json.literal cs ++ rest) = some (literalBody cs, rest) :=
  (stringInside_literalBody cs).literal? rest

/-- The string of a directive is a token at its opening quote, and the only one there, whatever
follows it. -/
theorem stringToken_iff {cs rest token : List Char} (h : token <+: Json.literal cs ++ rest) :
    StringToken token ↔ token = Json.literal cs := by
  constructor
  · exact fun htoken => htoken.eq_of_prefix (stringToken_literal cs) h (List.prefix_append _ _)
  · rintro rfl
    exact stringToken_literal cs

/-! ## What a string stands for -/

theorem unifyNewlines_of_not_mem {cs : List Char} (h : '\r' ∉ cs) : unifyNewlines cs = cs := by
  induction cs with
  | nil => rfl
  | cons c cs ih =>
      rw [List.mem_cons, not_or] at h
      rw [unifyNewlines, ih h.2]
      · exact fun _ heq _ => absurd heq.symm h.1
      · exact fun heq => absurd heq.symm h.1

/-- Nothing below the blank is ever written. -/
theorem le_toNat_of_mem_literalChar {c d : Char} (h : d ∈ literalChar c) : 32 ≤ d.toNat := by
  rcases literalChar_cases c with ⟨letter, hc, -, hle, -⟩ | ⟨-, hc⟩ | ⟨hc, -, -, hle⟩
  · rw [hc, List.mem_cons, List.mem_singleton] at h
    rcases h with rfl | rfl
    · decide
    · exact hle
  · rw [hc, List.mem_cons, List.mem_cons] at h
    rcases h with rfl | rfl | hdigit
    · decide
    · decide
    · obtain ⟨n, hn, rfl⟩ := exists_of_mem_hexDigits hdigit
      exact (hexDigit_solid n hn).2.2.2.1
  · rw [hc, List.mem_singleton] at h
    rw [h]
    exact hle

theorem le_toNat_of_mem_literalBody {cs : List Char} {d : Char} (h : d ∈ literalBody cs) :
    32 ≤ d.toNat := by
  obtain ⟨c, -, hd⟩ := List.mem_flatMap.1 h
  exact le_toNat_of_mem_literalChar hd

theorem le_toNat_of_mem_literal {cs : List Char} {c : Char} (h : c ∈ Json.literal cs) :
    32 ≤ c.toNat := by
  rw [Json.literal, List.mem_append, List.mem_cons, List.mem_singleton] at h
  rcases h with (rfl | h) | rfl
  · decide
  · exact le_toNat_of_mem_literalBody h
  · decide

theorem return_not_mem_literalBody (cs : List Char) : '\r' ∉ literalBody cs :=
  fun h => absurd (le_toNat_of_mem_literalBody h) (by decide)

/-- A text, read for its escapes, is written as another one. -/
def Written (cs written : List Char) : Prop :=
  ∀ rest, readEscapes (cs ++ rest) = (readEscapes rest).map (written ++ ·)

theorem written_nil : Written [] [] := by
  intro rest
  cases h : readEscapes rest <;> simp [h, Except.map]

theorem Written.append {front back first second : List Char} (hfront : Written front first)
    (hback : Written back second) : Written (front ++ back) (first ++ second) := by
  intro rest
  rw [List.append_assoc, hfront, hback]
  cases readEscapes rest with
  | error e => rfl
  | ok cs => simp [Except.map]

theorem written_singleton {c : Char} (h : c ≠ '\\') : Written [c] [c] := by
  intro rest
  rw [List.singleton_append, readEscapes, if_neg h]
  rfl

theorem readEscapes_slash {cs written rest : List Char} (h : escape cs = .ok (written, rest)) :
    readEscapes ('\\' :: cs) = (readEscapes rest).map (written ++ ·) := by
  rw [readEscapes, if_pos rfl]
  split
  · next heq => rw [h] at heq; exact absurd heq (by simp)
  · next heq =>
      rw [h] at heq
      obtain ⟨rfl, rfl⟩ := Prod.mk.inj (Except.ok.inj heq)
      rfl

theorem written_of_escape {cs written : List Char}
    (h : ∀ rest, escape (cs ++ rest) = .ok (written, rest)) : Written ('\\' :: cs) written := by
  intro rest
  rw [List.cons_append, readEscapes_slash (h rest)]

theorem numbered_hexDigits {letter c : Char} {width : Nat} (h : c.toNat < 16 ^ width)
    (rest : List Char) :
    numbered letter width (hexDigits width c.toNat ++ rest) = .ok ([c], rest) := by
  have hlength := length_hexDigits width c.toNat
  have hvalid : c.toNat.isValidChar := c.valid
  rw [numbered, if_pos (by rw [List.length_append]; omega), List.take_left' hlength,
    hexNumber?_hexDigits h, List.drop_left' hlength]
  simp only [hvalid, if_true, Char.ofNat_toNat]

theorem written_letter {letter c : Char} (h : letterEscape? letter = some c) :
    Written ['\\', letter] [c] := by
  refine written_of_escape fun rest => ?_
  simp only [List.singleton_append, escape, h]

theorem written_numbered {letter c : Char} {width : Nat}
    (hletter : (letter, width) ∈ [('x', 2), ('u', 4), ('U', 8)])
    (h : c.toNat < 16 ^ width) :
    Written ('\\' :: letter :: hexDigits width c.toNat) [c] := by
  have hescape : ∀ cs, escape (letter :: cs) = numbered letter width cs := by
    intro cs
    simp only [List.mem_cons, Prod.mk.injEq, List.not_mem_nil, or_false] at hletter
    rcases hletter with ⟨rfl, rfl⟩ | ⟨rfl, rfl⟩ | ⟨rfl, rfl⟩
    · rfl
    · rfl
    · rfl
  refine written_of_escape fun rest => ?_
  rw [List.cons_append, hescape]
  exact numbered_hexDigits h rest

theorem written_numberEscape (c : Char) : Written (numberEscape c) [c] := by
  unfold numberEscape
  split
  · next h => exact written_numbered (by decide) h
  · split
    · next h => exact written_numbered (by decide) h
    · have hbound : c.toNat < 0x110000 := by
        rcases c.valid with h | h
        · exact Nat.lt_trans h (by decide)
        · exact h.2
      exact written_numbered (by decide) (Nat.lt_trans hbound (by decide))

theorem asciiOnly_append (front back : List Char) :
    asciiOnly (front ++ back) = asciiOnly front ++ asciiOnly back := by
  rw [asciiOnly, asciiOnly, asciiOnly, List.flatMap_append]

theorem asciiOnly_of_forall {cs : List Char} (h : ∀ c ∈ cs, c.toNat < 128) : asciiOnly cs = cs := by
  induction cs with
  | nil => rfl
  | cons c cs ih =>
      have hrest := ih fun d hd => h d (List.mem_cons_of_mem c hd)
      rw [asciiOnly] at hrest ⊢
      rw [List.flatMap_cons, if_pos (h c List.mem_cons_self), hrest, List.singleton_append]

theorem written_literalChar (c : Char) : Written (asciiOnly (literalChar c)) [c] := by
  rcases literalChar_cases c with ⟨letter, h, hletter, -, hsmall⟩ | ⟨hc, h⟩ | ⟨h, -, hslash, -⟩
  · rw [h, asciiOnly_of_forall]
    · exact written_letter hletter
    · simpa using hsmall
  · rw [h, asciiOnly_of_forall]
    · exact written_numbered (by decide) (Nat.lt_trans hc (by decide))
    · intro d hd
      rcases List.mem_cons.1 hd with rfl | hd
      · decide
      · rcases List.mem_cons.1 hd with rfl | hd
        · decide
        · obtain ⟨n, hn, rfl⟩ := exists_of_mem_hexDigits hd
          exact (hexDigit_solid n hn).2.2.2.2
  · rw [h, asciiOnly, List.flatMap_singleton]
    split
    · exact written_singleton hslash
    · exact written_numberEscape c

theorem written_literalBody (cs : List Char) : Written (asciiOnly (literalBody cs)) cs := by
  induction cs with
  | nil => exact written_nil
  | cons c cs ih =>
      rw [literalBody, List.flatMap_cons, asciiOnly_append]
      exact (written_literalChar c).append ih

/-- A JSON string, read as a literal of a template, is the text that it was written from. -/
theorem decodeLiteral_literalBody (cs : List Char) :
    decodeLiteral (literalBody cs) = .ok cs := by
  have h := written_literalBody cs []
  rw [List.append_nil, readEscapes] at h
  rw [decodeLiteral, unifyNewlines_of_not_mem (return_not_mem_literalBody cs), h]
  simp [Except.map]

end TagCloud.Template
