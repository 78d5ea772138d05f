import TagCloud.Text.Hex

/-!
# JSON strings

A directive is handed on inside a template as a JSON string. The quote and the backslash get a
backslash, the characters below the blank get an escape, short where there is one, and every other
character stands for itself.
-/

namespace TagCloud.Json

/-- A character inside a JSON string. -/
def literalChar (c : Char) : List Char :=
  if c = '"' then ['\\', '"']
  else if c = '\\' then ['\\', '\\']
  else if c = '\n' then ['\\', 'n']
  else if c = '\r' then ['\\', 'r']
  else if c = '\t' then ['\\', 't']
  else if c = '\x08' then ['\\', 'b']
  else if c = '\x0c' then ['\\', 'f']
  else if c.toNat < 32 then '\\' :: 'u' :: Text.hexDigits 4 c.toNat
  else [c]

/-- The inside of a JSON string. -/
def literalBody (cs : List Char) : List Char :=
  cs.flatMap literalChar

/-- A text as a JSON string, with its quotes. -/
def literal (cs : List Char) : List Char :=
  '"' :: literalBody cs ++ ['"']

end TagCloud.Json
