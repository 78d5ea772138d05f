import TagCloud.Text.Blank
import TagCloud.Text.Name

/-!
# String literals of a template

A string literal stands between two equal quotes. A backslash inside takes the character behind it
along, so a quote can be written, and the literal ends at the first quote that no backslash has
taken.

What is inside is decoded in steps: line ends are unified, characters beyond ASCII are written as
escapes, and then every escape is read. The middle step shows only behind a backslash, where the
escape that a character has become is split from its own backslash.
-/

namespace TagCloud.Template

open TagCloud.Text

/-- The inside of a literal behind its opening quote, and what follows the closing one. -/
def literalInside? (quote : Char) : List Char → Option (List Char × List Char)
  | [] => none
  | '\\' :: c :: cs =>
    (literalInside? quote cs).map fun (inside, rest) => ('\\' :: c :: inside, rest)
  | c :: cs =>
    if c = quote then some ([], cs)
    else (literalInside? quote cs).map fun (inside, rest) => (c :: inside, rest)

/-- The inside of the literal at the front of a text, and what follows it. -/
def literal? : List Char → Option (List Char × List Char)
  | c :: cs => if c = '"' || c = '\x27' then literalInside? c cs else none
  | [] => none

/-- What is wrong with an escape. -/
inductive BadEscape where
  | truncated (letter : Char) (width : Nat)
  | noCharacter
  | malformedName
  | unknownName
  deriving Repr, DecidableEq

/-- The text shown for an escape that cannot be read. -/
def BadEscape.message : BadEscape → String
  | .truncated letter width =>
    "truncated \\" ++ letter.toString ++ String.ofList (List.replicate width 'X') ++ " escape"
  | .noCharacter => "illegal Unicode character"
  | .malformedName => "malformed \\N character escape"
  | .unknownName => "unknown Unicode character name"

/-- Characters beyond ASCII as escapes. -/
def asciiOnly (cs : List Char) : List Char :=
  cs.flatMap fun c => if c.toNat < 128 then [c] else numberEscape c

/-- Reads an escape of `width` hexadecimal digits. -/
def numbered (letter : Char) (width : Nat) (cs : List Char) :
    Except BadEscape (List Char × List Char) :=
  match if width ≤ cs.length then hexNumber? (cs.take width) else none with
  | none => .error (.truncated letter width)
  | some n =>
    if n.isValidChar then .ok ([Char.ofNat n], cs.drop width) else .error .noCharacter

/-- Reads the name of a character between braces. -/
def named : List Char → Except BadEscape (List Char × List Char)
  | '{' :: cs =>
    let name := cs.takeWhile (· ≠ '}')
    match name, cs.drop name.length with
    | [], _ | _, [] => .error .malformedName
    | name, _ :: rest =>
      match characterNamed? name with
      | some c => .ok ([c], rest)
      | none => .error .unknownName
  | _ => .error .malformedName

/-- An octal digit. -/
def isOctal (c : Char) : Bool :=
  '0' ≤ c && c ≤ '7'

/-- The character of an escape that is a single letter. -/
def letterEscape? : Char → Option Char
  | '\\' => some '\\'
  | '\x27' => some '\x27'
  | '"' => some '"'
  | 'a' => some '\x07'
  | 'b' => some '\x08'
  | 't' => some '\t'
  | 'n' => some '\n'
  | 'v' => some '\x0b'
  | 'f' => some '\x0c'
  | 'r' => some '\r'
  | _ => none

/-- Reads what stands behind a backslash. A backslash before a line end drops it, and one before a
character that makes no escape stands for itself. -/
def escape : List Char → Except BadEscape (List Char × List Char)
  | [] => .ok (['\\'], [])
  | c :: cs =>
    match letterEscape? c with
    | some e => .ok ([e], cs)
    | none =>
      if c = '\n' then .ok ([], cs)
      else if c = 'x' then numbered c 2 cs
      else if c = 'u' then numbered c 4 cs
      else if c = 'U' then numbered c 8 cs
      else if c = 'N' then named cs
      else if isOctal c then
        let digits := c :: (cs.take 2).takeWhile isOctal
        .ok ([Char.ofNat (digits.foldl (fun n d => n * 8 + (d.toNat - 48)) 0)],
          cs.drop (digits.length - 1))
      else .ok (['\\', c], cs)

theorem length_numbered_le {letter : Char} {width : Nat} {cs written rest : List Char}
    (h : numbered letter width cs = .ok (written, rest)) : rest.length ≤ cs.length := by
  unfold numbered at h
  split at h
  · simp at h
  · split at h
    · simp only [Except.ok.injEq, Prod.mk.injEq] at h
      rw [← h.2, List.length_drop]
      exact Nat.sub_le _ _
    · simp at h

theorem length_named_le {cs written rest : List Char} (h : named cs = .ok (written, rest)) :
    rest.length ≤ cs.length := by
  unfold named at h
  split at h
  · next cs =>
      simp only at h
      split at h
      · simp at h
      · simp at h
      · next c tail hdrop _ =>
          split at h
          · simp only [Except.ok.injEq, Prod.mk.injEq] at h
            have hle := congrArg List.length hdrop
            simp only [List.length_drop, List.length_cons] at hle
            rw [← h.2, List.length_cons]
            omega
          · simp at h
  · simp at h

/-- An escape leaves no more than there was behind its backslash. -/
theorem length_escape_le {cs written rest : List Char} (h : escape cs = .ok (written, rest)) :
    rest.length ≤ cs.length := by
  cases cs with
  | nil =>
    simp only [escape, Except.ok.injEq, Prod.mk.injEq] at h
    simp [← h.2]
  | cons c cs =>
    have hle : cs.length ≤ (c :: cs).length := Nat.le_succ _
    simp only [escape] at h
    split at h
    · simp only [Except.ok.injEq, Prod.mk.injEq] at h
      exact h.2 ▸ hle
    · repeat' split at h
      · simp only [Except.ok.injEq, Prod.mk.injEq] at h
        exact h.2 ▸ hle
      · exact Nat.le_trans (length_numbered_le h) hle
      · exact Nat.le_trans (length_numbered_le h) hle
      · exact Nat.le_trans (length_numbered_le h) hle
      · exact Nat.le_trans (length_named_le h) hle
      · simp only [Except.ok.injEq, Prod.mk.injEq] at h
        rw [← h.2, List.length_drop]
        exact Nat.le_trans (Nat.sub_le _ _) hle
      · simp only [Except.ok.injEq, Prod.mk.injEq] at h
        exact h.2 ▸ hle

/-- Reads all escapes of a text. -/
def readEscapes (cs : List Char) : Except BadEscape (List Char) :=
  match cs with
  | [] => .ok []
  | c :: cs =>
    if c = '\\' then
      match _ : escape cs with
      | .error e => .error e
      | .ok (written, rest) => (readEscapes rest).map (written ++ ·)
    else (readEscapes cs).map (c :: ·)
termination_by cs.length
decreasing_by
  · next h => exact Nat.lt_succ_of_le (length_escape_le h)
  · simp

/-- The text that the inside of a literal stands for. -/
def decodeLiteral (inside : List Char) : Except BadEscape (List Char) :=
  readEscapes (asciiOnly (unifyNewlines inside))

end TagCloud.Template
