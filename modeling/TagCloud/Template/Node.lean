import TagCloud.Template.Grammar
import TagCloud.Template.Opening
import TagCloud.Text.Blank

/-!
# The parts of a template

What an opening opens is read up to its closing and becomes a node: text for a raw block, nothing
for a comment, and an expression between the delimiters of variables. Every tag that is left at this
stage is unknown, because tags for clouds have been expanded and there are no others.

The text before an opening loses the blanks at its end if the opening asks for it; a closing that
asks for it has already taken the blanks behind it.
-/

namespace TagCloud.Template

open TagCloud.Text

/-- A part of a template. -/
inductive Node where
  | text (cs : List Char)
  | print (e : Expression)

/-- What is wrong with a tag that has not been expanded, found behind its opening delimiter. -/
def tagFault (s : Spacing) (d : Delimiters) (whole : List Char) (cs : List Char) : SyntaxError :=
  match token (behindClosing? d.blockEnd ⟨true, s.takesLineEnd⟩) whole [] cs with
  | .ok (⟨.name name, _⟩, _) => .unknownTag name
  | .ok (⟨.symbol s, _⟩, _) =>
    match bracketsBehind [] (.symbol s) with
    | .error e => e
    | .ok _ => .noTagName
  | .error (.fault e) => e
  | _ => .noTagName

/-- The end `rest` of `whole` begins a line. -/
def beginsLine (whole rest : List Char) : Bool :=
  (whole.take (place whole rest)).getLast?.all (· = '\n')

/-- The nodes of a template, of which `whole` is the whole. What follows a part has to be shorter
than what the part was found in; empty delimiters may make it the same. -/
def nodesFrom (s : Spacing) (d : Delimiters) (whole : List Char) (cs : List Char) :
    Except SyntaxError (List Node) :=
  let closing : Closing := ⟨true, s.takesLineEnd⟩
  match firstOpening? d cs with
  | none => .ok [.text cs]
  | some (text, opening, sign, rest) =>
    let takesIndent := s.takesIndent && opening ≠ .variable
    let before := Node.text (textBefore takesIndent (beginsLine whole cs) sign text)
    match opening with
    | .raw =>
      match rawBody? d closing rest with
      | some (body, sign, behind) =>
        let body := textBefore s.takesIndent (beginsLine whole rest) sign body
        if behind.length < cs.length then
          (nodesFrom s d whole behind).map fun ns => before :: .text body :: ns
        else .error .endless
      | none => if rest.isEmpty then .ok [before] else .error .unclosedRaw
    | .comment =>
      match behindComment? d closing rest with
      | some behind =>
        if behind.length < cs.length then (nodesFrom s d whole behind).map (before :: ·)
        else .error .endless
      | none => if rest.isEmpty then .ok [before] else .error .unclosedComment
    | .block => .error (tagFault s d whole rest)
    | .variable =>
      let row := tokens (behindClosing? d.variableEnd ⟨false, false⟩) whole [] rest
      match printed row.1 row.2 with
      | .ok (e, behind) =>
        if behind.length < cs.length then
          (nodesFrom s d whole behind).map fun ns => before :: .print e :: ns
        else .error .endless
      | .error e => .error e
termination_by cs.length

/-- A text without the line end it may end with. -/
def dropLastNewline (cs : List Char) : List Char :=
  if cs.getLast? = some '\n' then cs.dropLast else cs

/-- The nodes of the source of a template: its tags are expanded, its line ends unified, and one
line end at its end is dropped unless it is to be kept. -/
def nodes (s : Spacing) (d : Delimiters) (source : List Char) : Except SyntaxError (List Node) :=
  let cs := unifyNewlines (expandTags d source)
  let cs := if s.keepsLastLineEnd then cs else dropLastNewline cs
  nodesFrom s d cs cs

end TagCloud.Template
