import TagCloud.Template.Delimiters
import TagCloud.Template.Fault
import TagCloud.Template.Literal
import TagCloud.Template.Numeral
import TagCloud.Text.Identifier

/-!
# Tokens between delimiters

What stands between delimiters is read as a row of tokens. A closing delimiter ends the row only
where every bracket that was opened has been closed, so a brace inside a call does not cut it short.
A row that is not ended is kept with what stopped it, because a fault further to the left is
reported first, even if it is found only when the tokens are put together.

A number is tried before a name, so a name cannot begin with a digit; what is taken for a name and
is none, a raised two for instance, is a fault of its own. Behind a point no real number begins, so
that items of items can be asked for by their places.
-/

namespace TagCloud.Template

open TagCloud.Text

/-- What is wrong with a template. -/
inductive SyntaxError where
  | sameOpenings
  | endless
  | unclosedRaw
  | unclosedComment
  | noTagName
  | unknownTag (name : String)
  | noExpression (found : String)
  | badName
  | badNumber (e : BadNumber)
  | badEscape (e : BadEscape)
  | unexpectedCharacter (c : Char) (place : Nat)
  | unexpected (what : String)
  | unmatched (bracket : String) (wanted : Option String)
  | expected (wanted found : String)
  | ended (wanted : String)
  | badCall
  | chainedTests
  | noPlace
  | noFilter (name : String)
  | noTest (name : String)
  | lonelyBounds (line : Nat)
  | keywordRepeated (name : String) (line : Nat)
  | constant (e : Fault)
  | unsupported
  deriving Repr, DecidableEq

/-- The text shown for what is wrong with a template. -/
def SyntaxError.message : SyntaxError → String
  | .sameOpenings => "block, variable and comment start strings must be different."
  | .endless => "the delimiters are found again and again at the same place"
  | .unclosedRaw => "Missing end of raw directive"
  | .unclosedComment => "Missing end of comment tag"
  | .noTagName => "tag name expected"
  | .unknownTag name => "Encountered unknown tag " ++ quoted name ++ "."
  | .noExpression found => "Expected an expression, got " ++ quoted found
  | .badName => "Invalid character in identifier"
  | .badNumber e => e.message
  | .badEscape e => e.message
  | .unexpectedCharacter c place =>
    "unexpected char " ++ quoted c.toString ++ " at " ++ toString place
  | .unexpected what => "unexpected " ++ quoted what
  | .unmatched bracket none => "unexpected '" ++ bracket ++ "'"
  | .unmatched bracket (some wanted) =>
    "unexpected '" ++ bracket ++ "', expected '" ++ wanted ++ "'"
  | .expected wanted found => "expected token " ++ quoted wanted ++ ", got " ++ quoted found
  | .ended wanted => "unexpected end of template, expected " ++ quoted wanted ++ "."
  | .badCall => "invalid syntax for function call expression"
  | .chainedTests => "You cannot chain multiple tests with is"
  | .noPlace => "expected name or number"
  | .noFilter name => "No filter named " ++ quoted name ++ "."
  | .noTest name => "No test named " ++ quoted name ++ "."
  | .lonelyBounds line => "invalid syntax (<template>, line " ++ toString line ++ ")"
  | .keywordRepeated name line =>
    "keyword argument repeated: " ++ name ++ " (<template>, line " ++ toString line ++ ")"
  | .constant e => e.message
  | .unsupported => "unsupported expression"

/-- A token between delimiters. -/
inductive Token where
  | name (s : String)
  | string (s : String)
  | whole (n : Nat)
  | real (x : Float)
  | symbol (s : String)
  deriving Repr

/-- A token with the number of the line on which it begins. -/
structure Lexeme where
  token : Token
  line : Nat
  deriving Repr

/-- A token as messages show it. -/
def Token.shown : Token → String
  | .name s => s
  | .string _ => "string"
  | .real _ => "float"
  | .whole _ => "integer"
  | .symbol s => s

/-- How a row of tokens ends: at a closing delimiter with what follows it, at the end of the
template, or at a fault. -/
inductive Ending where
  | closed (rest : List Char)
  | open
  | fault (e : SyntaxError)
  deriving Repr, DecidableEq

/-- How a closing delimiter may be followed and preceded: a plus sign before it may count, and a
line end behind it may go with it. -/
structure Closing where
  plus : Bool
  lineEnd : Bool
  deriving Repr, DecidableEq

/-- A text without the line end that it may begin with. -/
def dropLineEnd : List Char → List Char
  | '\n' :: cs => cs
  | cs => cs

/-- What follows the closing delimiter at the front of a text. Before the delimiter may stand a
hyphen, which takes the blanks behind it along, and, where that counts, a plus sign. -/
def behindClosing? (word : List Char) (closing : Closing) (cs : List Char) : Option (List Char) :=
  let plain :=
    (behind? word cs).map fun rest => if closing.lineEnd then dropLineEnd rest else rest
  match cs with
  | '-' :: more =>
    match behind? word more with
    | some rest => some (trimLeft rest)
    | none => plain
  | '+' :: more =>
    if closing.plus then
      match behind? word more with
      | some rest => some rest
      | none => plain
    else plain
  | _ => plain

/-- The bracket that closes another one. -/
def closingBracket? : Char → Option Char
  | '(' => some ')'
  | '[' => some ']'
  | '{' => some '}'
  | _ => none

/-- A bracket that closes another one. -/
def isClosingBracket (c : Char) : Bool :=
  c == ')' || c == ']' || c == '}'

/-- The symbols of two characters. -/
def longSymbols : List (Char × Char) :=
  [('/', '/'), ('*', '*'), ('=', '='), ('!', '='), ('>', '='), ('<', '=')]

/-- The symbols of one character. -/
def shortSymbols : List Char :=
  ['+', '-', '/', '*', '%', '~', '[', ']', '(', ')', '{', '}', '>', '<', '=', '.', ':', '|', ',',
    ';']

/-- The symbol at the front of a text, and what follows it. -/
def symbol? : List Char → Option (String × List Char)
  | [] => none
  | c :: cs =>
    match cs with
    | d :: more =>
      if longSymbols.contains (c, d) then some (String.ofList [c, d], more)
      else if shortSymbols.contains c then some (c.toString, cs)
      else none
    | [] => if shortSymbols.contains c then some (c.toString, []) else none

/-- The place in `whole` at which its end `rest` begins. -/
def place (whole rest : List Char) : Nat :=
  whole.length - rest.length

/-- The number of the line of `whole` on which its end `rest` begins. -/
def lineOf (whole rest : List Char) : Nat :=
  (whole.take (place whole rest)).count '\n' + 1

/-- A point stands in `whole` right before its end `rest`. -/
def behindPoint (whole rest : List Char) : Bool :=
  (whole.take (place whole rest)).getLast? == some '.'

/-- The number at the front of a text, and how many characters it takes. -/
def numberAt? (afterPoint : Bool) (cs : List Char) : Option (Except BadNumber Token × Nat) :=
  match if afterPoint then none else realAt? cs with
  | some n => some (n.value.map .real, n.size)
  | none => (wholeAt? cs).map fun (n, size) => (n.map .whole, size)

/-- The token that begins with `c`, and what follows it. -/
def tokenAt (whole : List Char) (c : Char) (cs : List Char) : Except Ending (Token × List Char) :=
  match numberAt? (behindPoint whole (c :: cs)) (c :: cs) with
  | some (.ok t, size) => .ok (t, (c :: cs).drop size)
  | some (.error e, _) => .error (.fault (.badNumber e))
  | none =>
    if isNamePart c then
      let name := cs.takeWhile isNamePart
      if isIdentifier (c :: name) then
        .ok (.name (String.ofList (c :: name)), cs.drop name.length)
      else .error (.fault .badName)
    else
      match literal? (c :: cs) with
      | some (inside, rest) =>
        match decodeLiteral inside with
        | .ok s => .ok (.string (String.ofList s), rest)
        | .error e => .error (.fault (.badEscape e))
      | none =>
        match symbol? (c :: cs) with
        | some (s, rest) => .ok (.symbol s, rest)
        | none => .error (.fault (.unexpectedCharacter c (place whole (c :: cs))))

/-- The brackets that are open behind a token, the innermost first, each as what will close it. -/
def bracketsBehind (brackets : List Char) : Token → Except SyntaxError (List Char)
  | .symbol s =>
    match s.toList with
    | [c] =>
      match closingBracket? c with
      | some closing => .ok (closing :: brackets)
      | none =>
        if isClosingBracket c then
          match brackets with
          | [] => .error (.unmatched s none)
          | wanted :: brackets =>
            if wanted = c then .ok brackets else .error (.unmatched s (some wanted.toString))
        else .ok brackets
    | _ => .ok brackets
  | _ => .ok brackets

/-- The next token, and what follows it. `ends` recognises the closing delimiter, which counts only
outside brackets, and `whole` is the template. -/
def token (ends : List Char → Option (List Char)) (whole : List Char) (brackets : List Char)
    (cs : List Char) : Except Ending (Lexeme × List Char) :=
  let closing (cs : List Char) := if brackets.isEmpty then ends cs else none
  match closing cs with
  | some rest => .error (.closed rest)
  | none =>
    let cs := trimLeft cs
    match closing cs with
    | some rest => .error (.closed rest)
    | none =>
      match cs with
      | [] => .error .open
      | c :: cs =>
        (tokenAt whole c cs).map fun (t, rest) => (⟨t, lineOf whole (c :: cs)⟩, rest)

/-! ## Every token takes something off the text -/

theorem length_literalInside?_lt {quote : Char} {cs inside rest : List Char}
    (h : literalInside? quote cs = some (inside, rest)) : rest.length < cs.length := by
  fun_induction literalInside? quote cs generalizing inside with
  | case1 => simp at h
  | case2 c cs ih =>
    simp only [Option.map_eq_some_iff, Prod.mk.injEq] at h
    obtain ⟨⟨_, r⟩, hr, _, rfl⟩ := h
    exact Nat.lt_succ_of_lt (Nat.lt_succ_of_lt (ih hr))
  | case3 cs =>
    simp only [Option.some.injEq, Prod.mk.injEq] at h
    simp [← h.2]
  | case4 c cs _ _ ih =>
    simp only [Option.map_eq_some_iff, Prod.mk.injEq] at h
    obtain ⟨⟨_, r⟩, hr, _, rfl⟩ := h
    exact Nat.lt_succ_of_lt (ih hr)

theorem length_literal?_lt {cs inside rest : List Char} (h : literal? cs = some (inside, rest)) :
    rest.length < cs.length := by
  cases cs with
  | nil => simp [literal?] at h
  | cons c cs =>
    simp only [literal?] at h
    split at h
    · exact Nat.lt_succ_of_lt (length_literalInside?_lt h)
    · simp at h

theorem length_symbol?_lt {cs rest : List Char} {s : String} (h : symbol? cs = some (s, rest)) :
    rest.length < cs.length := by
  unfold symbol? at h
  repeat' split at h
  all_goals simp only [Option.some.injEq, Prod.mk.injEq, reduceCtorEq] at h
  all_goals simp only [← h.2, List.length_cons, List.length_nil]
  all_goals omega

theorem size_numberAt?_pos {afterPoint : Bool} {cs : List Char} {t : Except BadNumber Token}
    {size : Nat} (h : numberAt? afterPoint cs = some (t, size)) : 0 < size := by
  unfold numberAt? at h
  split at h
  · next n hn =>
      simp only [Option.some.injEq, Prod.mk.injEq] at h
      split at hn
      · simp at hn
      · exact h.2 ▸ length_realAt?_pos hn
  · simp only [Option.map_eq_some_iff, Prod.mk.injEq] at h
    obtain ⟨⟨v, n⟩, hv, _, rfl⟩ := h
    exact length_wholeAt?_pos hv

theorem length_tokenAt_lt {whole : List Char} {c : Char} {cs rest : List Char} {t : Token}
    (h : tokenAt whole c cs = .ok (t, rest)) : rest.length < cs.length + 1 := by
  unfold tokenAt at h
  split at h
  · next t' size hn =>
      have hpos := size_numberAt?_pos hn
      simp only [Except.ok.injEq, Prod.mk.injEq] at h
      rw [← h.2, List.length_drop, List.length_cons]
      omega
  · simp at h
  · split at h
    · simp only at h
      split at h
      · simp only [Except.ok.injEq, Prod.mk.injEq] at h
        rw [← h.2, List.length_drop]
        omega
      · simp at h
    · split at h
      · next inside r hl =>
          have hlt := length_literal?_lt hl
          split at h
          · simp only [Except.ok.injEq, Prod.mk.injEq] at h
            exact h.2 ▸ hlt
          · simp at h
      · split at h
        · next s r hs =>
            simp only [Except.ok.injEq, Prod.mk.injEq] at h
            exact h.2 ▸ length_symbol?_lt hs
        · simp at h

theorem length_trimLeft_le (cs : List Char) : (trimLeft cs).length ≤ cs.length :=
  (List.dropWhile_suffix _).length_le

theorem length_token_lt {ends : List Char → Option (List Char)} {whole : List Char}
    {brackets cs rest : List Char} {t : Lexeme}
    (h : token ends whole brackets cs = .ok (t, rest)) : rest.length < cs.length := by
  unfold token at h
  simp only at h
  split at h
  · simp at h
  · split at h
    · simp at h
    · split at h
      · simp at h
      · next c tail hc =>
          cases hat : tokenAt whole c tail with
          | error e => simp [hat, Except.map] at h
          | ok found =>
            simp only [hat, Except.map, Except.ok.injEq, Prod.mk.injEq] at h
            have hlt := length_tokenAt_lt hat
            have hle := length_trimLeft_le cs
            simp only [hc, List.length_cons] at hle
            rw [← h.2]
            omega

/-- The tokens up to the closing delimiter, and how their row ends. -/
def tokens (ends : List Char → Option (List Char)) (whole : List Char) (brackets : List Char)
    (cs : List Char) : List Lexeme × Ending :=
  match _ : token ends whole brackets cs with
  | .error e => ([], e)
  | .ok (t, rest) =>
    match bracketsBehind brackets t.token with
    | .error e => ([], .fault e)
    | .ok brackets =>
      let (ts, ending) := tokens ends whole brackets rest
      (t :: ts, ending)
termination_by cs.length
decreasing_by next h => exact length_token_lt h

end TagCloud.Template
