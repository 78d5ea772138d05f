import TagCloud.Proofs.Template.Literal
import TagCloud.Proofs.Template.Tag
import TagCloud.Proofs.Text.Span
import TagCloud.Template.Grammar

/-!
# The tokens of a call for a cloud

A template asks for a cloud in two ways: with a printed call that hands a variable on, or with a
tag, which has become a printed call that hands a string on. Either call is a row of four tokens,
and reading the row gives the call. The closing delimiter behind it is met outside the brackets, so
the row ends there, whatever the string holds and whatever follows.
-/

namespace TagCloud.Template

open TagCloud.Text

/-- The name of the variable in which a call finds its directive. -/
def directiveWord : List Char := ['d', 'i', 'r', 'e', 'c', 't', 'i', 'v', 'e']

/-- How a template asks for a cloud. -/
inductive Asked where
  | call
  | tag (directive : List Char)

namespace Asked

/-- What stands in the template. -/
def source : Asked → List Char
  | call => calling directiveWord
  | tag directive => tagged directive

/-- The argument of the call as it is written. -/
def argument : Asked → List Char
  | call => directiveWord
  | tag directive => Json.literal (trim directive)

/-- The argument of the call as a token. -/
def token : Asked → Token
  | call => .name "directive"
  | tag directive => .string (String.ofList (trim directive))

/-- The argument of the call as an expression. -/
def operand : Asked → Expression
  | call => .variable "directive"
  | tag directive => .constant (.text (String.ofList (trim directive)))

/-- The call. -/
def expression (a : Asked) : Expression :=
  .call (.variable "tag_cloud") [.plain a.operand]

/-- A tag has to end where it does, and not before. -/
def Fits : Asked → Prop
  | call => True
  | tag directive => ¬ ['%', '}'] <:+: directive

end Asked

/-! ## Single tokens -/

/-- A character with which no number begins. -/
def BeginsNoNumber (c : Char) : Prop :=
  isDigit c = false ∧ c ≠ '0' ∧ ('1' ≤ c && c ≤ '9') = false

instance (c : Char) : Decidable (BeginsNoNumber c) :=
  inferInstanceAs (Decidable (_ ∧ _ ∧ _))

theorem numberAt?_eq_none {c : Char} (h : BeginsNoNumber c) (afterPoint : Bool)
    (cs : List Char) : numberAt? afterPoint (c :: cs) = none := by
  obtain ⟨hdigit, hzero, hwhole⟩ := h
  have hreal : realAt? (c :: cs) = none := by
    simp [realAt?, digitsAt, hdigit]
  have hwhole : wholeAt? (c :: cs) = none := by
    unfold wholeAt?
    split
    · next heq => exact absurd heq (by simp)
    · next heq => exact absurd (List.cons.inj heq).1 hzero
    · next heq =>
        obtain ⟨rfl, rfl⟩ := List.cons.inj heq
        rw [hwhole]
        rfl
  cases afterPoint with
  | false => simp [numberAt?, hreal, hwhole]
  | true => simp [numberAt?, hwhole]

/-- A JSON string is a token with the text that it was written from. -/
theorem tokenAt_literal (cs rest whole : List Char) :
    tokenAt whole '"' (Json.literalBody cs ++ '"' :: rest)
      = .ok (.string (String.ofList cs), rest) := by
  have hname : isNamePart '"' = false := by decide +kernel
  have hliteral := literal?_literal cs rest
  rw [Json.literal, List.cons_append, List.cons_append, List.append_assoc,
    List.singleton_append] at hliteral
  rw [tokenAt, numberAt?_eq_none (by decide)]
  simp [hname, hliteral, decodeLiteral_literalBody]

/-! ## The row of a call -/

variable {ends : List Char → Option (List Char)} {whole brackets cs : List Char}

/-- The directive of a tag comes out of the call in its place as it went in, without the blanks
around it. What is written for it is one string token, whatever follows, and has no line ends in it
nor any other character below the blank; what is between its quotes decodes to the directive, and so
the reader of templates has the directive as a single token there. -/
theorem Tag.call_readBack (d : Delimiters) (t : Tag) :
    ∃ front inside back : List Char,
      t.call d = front ++ ('"' :: inside ++ ['"']) ++ back
        ∧ front = d.variableStart ++ hyphen t.trimsLeft ++ ' ' :: tagWord ++ ['(']
        ∧ back = ')' :: ' ' :: hyphen t.trimsRight ++ d.variableEnd
        ∧ (∀ rest token, token <+: '"' :: inside ++ ['"'] ++ rest →
            (StringToken token ↔ token = '"' :: inside ++ ['"']))
        ∧ (∀ c ∈ '"' :: inside ++ ['"'], 32 ≤ c.toNat)
        ∧ decodeLiteral inside = .ok (trim t.body)
        ∧ ∀ whole rest, tokenAt whole '"' (inside ++ '"' :: rest)
            = .ok (.string (String.ofList (trim t.body)), rest) := by
  refine ⟨_, Json.literalBody (trim t.body), _, ?_, rfl, rfl, fun rest token => stringToken_iff,
    fun c => le_toNat_of_mem_literal, decodeLiteral_literalBody _, fun whole rest => ?_⟩
  · simp [Tag.call, Json.literal]
  · exact tokenAt_literal _ rest whole

end TagCloud.Template
