import TagCloud.Text.Hex
import TagCloud.Text.Printable

/-!
# Text that is shown

Messages show a text between quotes. Single quotes are used unless the text holds one and no double
quote. The quote in use, the backslash, tabs and line ends have short escapes; any other character
that cannot be seen is shown by its number, in the shortest of three widths.

Text that is put into a page gets its markup characters written as references instead, so that it is
shown as it is.
-/

namespace TagCloud.Text

/-- The quote that a text is put between. -/
def quoteFor (cs : List Char) : Char :=
  if cs.contains '\x27' && !cs.contains '"' then '"' else '\x27'

/-- A character as it is shown between two quotes. -/
def quotedChar (quote : Char) (c : Char) : List Char :=
  if c = quote || c = '\\' then ['\\', c]
  else if c = '\n' then ['\\', 'n']
  else if c = '\r' then ['\\', 'r']
  else if c = '\t' then ['\\', 't']
  else if isPrintable c then [c]
  else numberEscape c

/-- A text between quotes. -/
def quoted (s : String) : String :=
  let cs := s.toList
  let quote := quoteFor cs
  String.ofList (quote :: cs.flatMap (quotedChar quote) ++ [quote])

/-- A character as it is written in HTML. -/
def escapedChar : Char → List Char
  | '&' => "&amp;".toList
  | '<' => "&lt;".toList
  | '>' => "&gt;".toList
  | '"' => "&#34;".toList
  | '\x27' => "&#39;".toList
  | c => [c]

/-- A text as it is written in HTML. -/
def escaped (s : String) : String :=
  String.ofList (s.toList.flatMap escapedChar)

end TagCloud.Text
