import TagCloud.Template.Filter.Rule
import TagCloud.Text.Entity
import TagCloud.Text.Wrapping

/-!
# Filters for texts

A text changes its case, is cut, indented and wrapped, and becomes markup or plain text again. What
is not a text is turned into one by most of these filters; those that cut a text take it as it is.
-/

namespace TagCloud.Template

namespace Filter

open Signature (needed usually placed)

/-- No text is so long. -/
def lengthLimit : Nat := 9223372036854775807

/-- A filter that calls a method of texts. -/
def textMethod (name : String) : Filter :=
  ofValue ("do_" ++ name) [] "s" fun v => v.askText name []

/-- The number of words in a text. -/
def countWords (cs : List Char) : Nat :=
  (cs.splitBy fun a b => Text.isWord a == Text.isWord b).countP (·.any Text.isWord)

/-- A text with the occurrences of another one replaced. -/
def replacement (escapes : Bool) (v old new count : Value) : Except Fault Value := do
  let count := if count.kind = .null then .whole (-1) else count
  if escapes then
    let v ←
      if old.isMarkup || (new.isMarkup && !v.isMarkup) then pure (Value.markup (← v.escaped))
      else v.softened
    v.ask "replace" [← old.softened, ← new.softened, count]
  else
    (← v.asText).ask "replace" [.text (← old.written), .text (← new.written), count]

/-- Fails unless a value is at least as great as another one. -/
def expectAtLeast (what : String) (v least : Value) : Except Fault Unit := do
  if !(← Value.inOrder .atLeast v least) then
    throw (.filter (.expected what least.shown v.plainText))

/-- The items of a value before a place. -/
def before (v : Value) (place : Value) : Except Fault Value :=
  v.slice .null place .null

/-- A text that is too long without its end, which another text stands for. A text that is hardly
too long stays whole, and a word is not cut unless `kills` says so. -/
def shortened (v size kills ending leeway : Value) : Except Fault Value := do
  let leeway := if leeway.kind = .null then .whole 5 else leeway
  let endSize := Value.whole (Int.ofNat (← ending.length))
  expectAtLeast "length" size endSize
  expectAtLeast "leeway" leeway (.whole 0)
  let length := Value.whole (Int.ofNat (← v.length))
  if ← Value.inOrder .atMost length (← Value.operate .add size leeway) then return v
  let front ← before v (← Value.operate .sub size endSize)
  if !kills.isEmpty then Value.operate .add front ending
  else
    let words ← front.ask "rsplit" [.text " ", .whole 1]
    Value.operate .add ((words.item? (.whole 0)).getD .null) ending

/-- The text that lines are to stand behind, and whether it is markup. -/
def indention (width : Value) : Except Fault (String × Bool) := do
  match width.text? with
  | some s => return (s, width.isMarkup)
  | none => return ((← Value.operate .mul (.text " ") width).plainText, false)

/-- The lines of a text behind an indentation. The first line and empty ones have none unless that
is asked for. An indentation of markup guards itself against the text that it is put before. -/
def indented (v width first blank : Value) : Except Fault Value := do
  let (front, isMarked) ← indention width
  let s ←
    match v, v.text? with
    | .undefined complaint, _ => throw (.undefined complaint)
    | .list .., _ => throw (.noAttribute "'list' object" "splitlines")
    | _, some s => pure s
    | .tuple _, none => throw (.operator (.concatenation Kind.tuple.name Kind.text.name))
    | .bytes _, none => throw (.operator (.bytesConcatenation Kind.text.name))
    | v, none => throw (.operator (.operands "+=" v.kind.name Kind.text.name))
  let guards := isMarked && !v.isMarkup
  let guarded (s : String) : String := if guards then Text.escaped s else s
  let lines := (Text.lines false (s ++ "\n").toList).map String.ofList
  let behind (line : String) : String := if line.isEmpty then line else front ++ guarded line
  let blank := !blank.isEmpty
  let rest :=
    if blank then ("\n" ++ front).intercalate (lines.map guarded)
    else "\n".intercalate (lines.take 1 ++ (lines.drop 1).map behind)
  let first := !first.isEmpty
  let made := if first then front ++ (if blank then rest else guarded rest) else rest
  return if v.isMarkup || (guards && (first || blank)) then .markup made else .text made

/-- The greatest whole number of characters within a width. -/
def wholeWidth (width : Value) : Nat :=
  match width with
  | .real x _ =>
    match (Number.Datum.ofFloat x).truncate with
    | .ok n => n.toNat
    | .error _ => lengthLimit
  | v => (v.whole?.getD 0).toNat

/-- The lines of a text in a width. -/
def wrapped (v width breaksWords between breaksCompounds : Value) : Except Fault Value := do
  let between := if between.kind = .null then .text "\n" else between
  let _ ← between.attributeNamed "join"
  let lines ← (← v.ask "splitlines" []).items
  if lines.isEmpty then return ← between.ask "join" [.list none []]
  if v.kind = .bytes then throw (.filter .textPattern)
  if ← Value.inOrder .atMost width (.whole 0) then throw (.filter (.wrapWidth width.shown))
  let w : Text.Wrapping :=
    ⟨wholeWidth width, width.whole?.isSome, !breaksWords.isEmpty,
      breaksCompounds.isSame (.bool true), !breaksCompounds.isEmpty⟩
  let made ← lines.mapM fun line => do
    match w.wrapped? line.plainText.toList with
    | some lines => between.ask "join" [.ofTexts lines]
    | none => throw .sliceBounds
  between.ask "join" [.list none made]

/-- A character that cannot stand in the name of an attribute. -/
def endsAttribute (c : Char) : Bool :=
  [' ', '\t', '\n', '\r', '\x0b', '\x0c', '/', '>', '='].contains c

/-- The members of a dictionary as attributes of a tag; those without a value are left out. -/
def attributes (escapes : Bool) (v spaced : Value) : Except Fault Value := do
  let row ← (← v.ask "items" []).items
  let texts ← row.filterMapM fun item => do
    let key := (item.item? (.whole 0)).getD .null
    match (item.item? (.whole 1)).getD .null with
    | .null | .undefined _ => return none
    | w =>
      match key, key.text? with
      | .bytes _, _ => throw (.filter .textPattern)
      | key, none => throw (.filter (.patternWanted key.kind.name))
      | key, some name =>
        if name.toList.any endsAttribute then throw (.filter (.attributeName (Text.quoted name)))
        return some ((← key.escaped) ++ "=\"" ++ (← w.escaped) ++ "\"")
  let made := " ".intercalate texts
  let made := if !spaced.isEmpty && !made.isEmpty then " " ++ made else made
  return if escapes then .markup made else .text made

/-- The filters for texts. -/
def textFilters : Filters :=
  [ ("upper", textMethod "upper"), ("lower", textMethod "lower"),
    ("capitalize", textMethod "capitalize"),
    ("title", ofValue "do_title" [] "s" fun v => do return .text (Text.titled (← v.written))),
    ("wordcount", ofValue "do_wordcount" [] "s" fun v => do
      return .whole (Int.ofNat (countWords (← v.written).toList))),
    ("center", ofRule "do_center" [] [needed "value", usually "width" (.whole 80)] fun
      | _, [v, width] => v.askText "center" [width]
      | _, _ => .error .unsupported),
    ("trim", ofRule "do_trim" [] [needed "value", usually "chars" .null] fun
      | _, [v, chars] => v.askText "strip" [chars]
      | _, _ => .error .unsupported),
    ("replace", ofRule "do_replace" ["eval_ctx"] [needed "s", needed "old", needed "new",
      usually "count" .null] fun
      | escapes, [v, old, new, count] => replacement escapes v old new count
      | _, _ => .error .unsupported),
    ("truncate", ofRule "do_truncate" ["env"] [needed "s", usually "length" (.whole 255),
      usually "killwords" (.bool false), usually "end" (.text "..."), usually "leeway" .null] fun
      | _, [v, size, kills, ending, leeway] => shortened v size kills ending leeway
      | _, _ => .error .unsupported),
    ("indent", ofRule "do_indent" [] [needed "s", usually "width" (.whole 4),
      usually "first" (.bool false), usually "blank" (.bool false)] fun
      | _, [v, width, first, blank] => indented v width first blank
      | _, _ => .error .unsupported),
    ("wordwrap", ofRule "do_wordwrap" ["environment"] [needed "s", usually "width" (.whole 79),
      usually "break_long_words" (.bool true), usually "wrapstring" .null,
      usually "break_on_hyphens" (.bool true)] fun
      | _, [v, width, words, between, compounds] => wrapped v width words between compounds
      | _, _ => .error .unsupported),
    ("xmlattr", ofRule "do_xmlattr" ["eval_ctx"] [needed "d", usually "autospace" (.bool true)] fun
      | escapes, [v, spaced] => attributes escapes v spaced
      | _, _ => .error .unsupported),
    ("striptags", ofValue "do_striptags" [] "value" fun v => do
      return .ofChars (Text.withoutTags (← v.trusted).toList)),
    ("forceescape", ofValue "do_forceescape" [] "value" fun v => do
      return .markup (Text.escaped (← v.trusted))),
    ("safe", ofValue "do_mark_safe" [] "value" fun v => do return .markup (← v.trusted)),
    ("string", ⟨⟨"soft_str", [], [placed (needed "s")]⟩, fun
      | _, [v] => v.softened
      | _, _ => .error .unsupported⟩),
    ("e", ⟨⟨"escape", [], [placed (needed "s")]⟩, fun
      | _, [v] => do return .markup (← v.escaped)
      | _, _ => .error .unsupported⟩),
    ("escape", ⟨⟨"escape", [], [placed (needed "s")]⟩, fun
      | _, [v] => do return .markup (← v.escaped)
      | _, _ => .error .unsupported⟩) ]

end Filter

end TagCloud.Template
