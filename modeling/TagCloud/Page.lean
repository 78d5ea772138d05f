import TagCloud.Config

/-!
# A page around a cloud

A cloud can be shown on a page of its own. The page puts a list into a list element and anything
else into a paragraph. Title, heading and cloud are written as they are; a heading that is empty or
not given is the title again.
-/

namespace TagCloud

/-- The style sheet of a page. -/
def pageStyles : String :=
  "\n  body \x7b margin:0; font-family: ui-sans-serif, system-ui, -apple-system, \"Segoe UI\", "
    ++ "Roboto, Helvetica, Arial; color:#111827; \x7d\n"
    ++ "  header \x7b padding:12px 16px; font-weight:700; \x7d\n"
    ++ "  .cloud \x7b max-width:960px; margin:0 auto; padding:10px; line-height:1.6; \x7d\n"
    ++ "  ul.cloud \x7b list-style:none; \x7d\n"
    ++ "  ul.cloud li \x7b display:inline; margin:0 .3em; \x7d\n"
    ++ "  .cloud a \x7b color:#334155; text-decoration:none; \x7d\n"

/-- The name of the element that holds a cloud of a style. -/
def Style.wrapper : Style → String
  | .list => "ul"
  | _ => "p"

/-- What a page shows beside its cloud. -/
structure PageText where
  title : String
  heading : Option String
  deriving Repr, DecidableEq

/-- The page that is shown when nothing else is asked for. -/
def PageText.usual : PageText :=
  ⟨"Tag Cloud", none⟩

/-- The heading that is shown. -/
def PageText.shownHeading (p : PageText) : String :=
  match p.heading with
  | none => p.title
  | some heading => if heading.isEmpty then p.title else heading

/-- A page around the markup of a cloud. -/
def renderPage (style : Style) (text : PageText) (cloud : String) : String :=
  "<!DOCTYPE html>\n<html lang=\"en\">\n<head>\n<meta charset=\"utf-8\"/>\n"
    ++ "<meta name=\"viewport\" content=\"width=device-width, initial-scale=1\"/>\n"
    ++ "<title>" ++ text.title ++ "</title>\n<style>" ++ pageStyles ++ "</style>\n</head>\n<body>\n"
    ++ "  <header>" ++ text.shownHeading ++ "</header>\n"
    ++ "  <" ++ style.wrapper ++ " class=\"cloud\">\n" ++ cloud ++ "  </" ++ style.wrapper ++ ">\n"
    ++ "</body>\n</html>\n"

end TagCloud
