import TagCloud.Template.Filter.Rule
import TagCloud.Text.Address

/-!
# Filters for links

A value is written as a part of a link, or as the query that its members make. In a text the
addresses of pages and of mailboxes are found word by word and turned into links; a text of a link
may be cut short, and other beginnings of addresses may be made known.
-/

namespace TagCloud.Template

namespace Filter

open Signature (needed usually)

/-- The byte of a text in a link: itself, or its number behind a percent sign. -/
def linkByte (keepsSlash : Bool) (b : UInt8) : List Char :=
  let c := Char.ofNat b.toNat
  if (b < 128 && (c.isAlphanum || "_.-~".toList.contains c)) || (keepsSlash && c = '/') then [c]
  else '%' :: (Text.hexDigits 2 b.toNat).map Char.toUpper

/-- A value in a link. In a query blanks are plus signs, and a slash has no meaning. -/
def linkText (inQuery : Bool) (v : Value) : Except Fault String := do
  let bytes ←
    match v with
    | .bytes bs => pure bs
    | v => do pure (Text.encodeUtf8 (← v.written))
  return String.ofList (bytes.flatMap fun b =>
    if inQuery && b = 32 then ['+'] else linkByte (!inQuery) b)

/-- A key and a value in a query. -/
def linkPair (v : Value) : Except Fault String := do
  if !v.isWalkable then throw (.filter (.unpacked v.kind.name))
  match ← v.items with
  | [k, w] => return (← linkText true k) ++ "=" ++ (← linkText true w)
  | vs => throw (.filter (.unpackedSize vs.length))

/-- A value in a link, or the query that its members or its items make. -/
def linked (v : Value) : Except Fault Value := do
  let query (vs : List Value) : Except Fault Value := do
    return .text ("&".intercalate (← vs.mapM linkPair))
  match v with
  | .text _ _ | .markup _ => return .text (← linkText false v)
  | .dictionary _ members => query (Value.pairs members)
  | v =>
    if v.items?.isSome then query (← v.items)
    else return .text (← linkText false v)

/-! ## Addresses in a text -/

/-- How the addresses in a text become links: the attributes of the tag, how the text of a link is
cut short, and what else begins an address. -/
structure Linking where
  attributes : String
  shortened : List Char → Except Fault (List Char)
  schemes : List (List Char)

namespace Linking

/-- A link to an address. -/
def link (attributes : String) (address text : List Char) : List Char :=
  "<a href=\"".toList ++ address ++ "\"".toList ++ attributes.toList ++ ['>'] ++ text
    ++ "</a>".toList

/-- The middle of a word as a link, if it is an address. -/
def middle (l : Linking) (cs : List Char) : Except Fault (List Char) := do
  let begins (front : String) : Bool := front.toList.isPrefixOf cs
  let mailbox := cs.drop "mailto:".length
  if Text.isPageAddress cs then
    let scheme := if begins "https://" || begins "http://" then "" else "https://"
    return link l.attributes (scheme.toList ++ cs) (← l.shortened cs)
  else if begins "mailto:" && Text.isMailAddress mailbox then return link "" cs mailbox
  else if !begins "www." && !begins "@" && !cs.contains ':' && Text.isMailAddress cs then
    return link "" ("mailto:".toList ++ cs) cs
  else
    return l.schemes.foldl (fun cs scheme =>
      if cs ≠ scheme && scheme.isPrefixOf cs then link l.attributes cs cs else cs) cs

/-- A word with a link in it if there is an address in it. -/
def word (l : Linking) (cs : List Char) : Except Fault (List Char) := do
  let m := Text.Marked.ofWord cs
  return m.head ++ (← l.middle m.middle) ++ m.tail

/-- The words of a text with links in them; `current` is what the text begins with, from right to
left. -/
def words (l : Linking) (current : List Char) : List Char → Except Fault (List Char)
  | [] => l.word current.reverse
  | c :: cs =>
    if Text.isBlank c then do
      let front ← l.word current.reverse
      return front ++ c :: (← words l [] cs)
    else words l (c :: current) cs

end Linking

/-- The text of a link, of which no more than so many characters are wanted. -/
def shortenedLink (limit : Value) (cs : List Char) : Except Fault (List Char) := do
  if limit.kind = .null then return cs
  else if ← Value.inOrder .above (.whole (Int.ofNat cs.length)) limit then
    let front ← (Value.ofChars cs).slice .null limit .null
    return front.plainText.toList ++ "...".toList
  else return cs

/-- What a link says of itself, in order and each once. -/
def relations (given : Value) (nofollow : Bool) : Except Fault (List String) := do
  let given ← if given.isEmpty then pure [] else do (← given.ask "split" []).items
  let all := given.map Value.plainText ++ (if nofollow then ["nofollow"] else []) ++ ["noopener"]
  return all.eraseDups.mergeSort fun s t => Value.compareTexts s t != .gt

/-- A scheme that the text of a filter may make known. -/
def scheme (v : Value) : Except Fault (List Char) :=
  match v, v.text? with
  | .bytes _, _ => .error (.filter .textPattern)
  | v, none => .error (.filter (.patternWanted v.kind.name))
  | v, some s =>
    if Text.isScheme s.toList then .ok s.toList else .error (.filter (.wrong (.scheme v.shown)))

/-- A text with links in it. Looking whether schemes can be made known takes them out of an
iterator, which then has none left to be found. -/
def withLinks (escapes : Bool) (v limit nofollow target relation schemes : Value) :
    Except Fault Value := do
  let relations ← relations relation (!nofollow.isEmpty)
  let given ← if schemes.kind = .null then pure [] else schemes.items
  let found ← given.mapM scheme
  let known := if schemes.isUnsized then [] else found
  let named (name : String) (s : String) : String := " " ++ name ++ "=\"" ++ s ++ "\""
  let text ← v.escaped
  let target ← if target.isEmpty then pure "" else do
    pure (named "target" (← target.escaped))
  let l : Linking :=
    ⟨named "rel" (Text.escaped (" ".intercalate relations)) ++ target, shortenedLink limit, known⟩
  let made := String.ofList (← l.words [] text.toList)
  return if escapes then .markup made else .text made

/-- The filters for links. -/
def linkFilters : Filters :=
  [ ("urlencode", ofValue "do_urlencode" [] "value" linked),
    ("urlize", ofRule "do_urlize" ["eval_ctx"] [needed "value", usually "trim_url_limit" .null,
      usually "nofollow" (.bool false), usually "target" .null, usually "rel" .null,
      usually "extra_schemes" .null] fun
      | escapes, [v, limit, nofollow, target, relation, schemes] =>
        withLinks escapes v limit nofollow target relation schemes
      | _, _ => .error .unsupported) ]

end Filter

end TagCloud.Template
