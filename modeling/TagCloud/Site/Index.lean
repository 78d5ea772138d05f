import TagCloud.Page
import TagCloud.Site.TagPath
import TagCloud.Text.Quoted

/-!
# The index page

The index page shows the cloud of the project's own tag file and a form with the directive that made
it. Without a tag file that can be read the cloud is empty. The directive is shown as it was typed;
the cloud is the only markup that is put into the page.
-/

namespace TagCloud.Site

/-- The path of the project's own tag file. -/
def indexTagFile : String := "data/tags.json"

/-- The base of the links of the site's clouds when a request names none. -/
def usualTagDir : String := "/blog/tags"

/-- The directive of the index page when none is typed. -/
def usualDirective : String := "font-size: 80 - 200%, sort: alpha"

/-- The tags of the index page. -/
def indexTags (tree : File.Tree) (base : File.Location) : Except Failure Tags :=
  match loadTagFile tree base indexTagFile with
  | .ok members => .ok (Json.Value.toTags members)
  | .error (.refused _) => .ok []
  | .error (.failed f) => .error f

/-- The element around the cloud of the index page. -/
def framed (style : Style) (cloud : String) : String :=
  let name := if style = .para then "p" else "ul"
  "  \n  <" ++ name ++ " class=\"cloud\">\n    " ++ cloud ++ "\n  </" ++ name ++ ">\n  \n"

/-- The index page. -/
def indexPage (directive : String) (style : Style) (cloud : String) : String :=
  "<!DOCTYPE html>\n<html lang=\"en\">\n<head>\n<meta charset=\"utf-8\"/>\n"
    ++ "<meta name=\"viewport\" content=\"width=device-width, initial-scale=1\"/>\n"
    ++ "<title>Tag Cloud</title>\n<style>" ++ pageStyles
    ++ "\n  form \x7b padding:0 16px; \x7d\n  input[name=directive] \x7b width:32em; \x7d\n"
    ++ "</style>\n</head>\n<body>\n  <header>Tag Cloud</header>\n  <form method=\"get\">\n"
    ++ "    <input name=\"directive\" value=\"" ++ Text.escaped directive ++ "\"/>\n"
    ++ "    <button type=\"submit\">Render</button>\n  </form>\n"
    ++ framed style cloud ++ "</body>\n</html>"

/-- The answer to a request for the index page. -/
def showIndex (fresh : Generator) (tree : File.Tree) (base : File.Location)
    (directive : Option String) : Answer :=
  let directive := directive.getD usualDirective
  let shown : Except Failure String := do
    let tags ← indexTags tree base
    let c : Config Float ← (Directive.parse directive).mapError fun e => .render (.directive e)
    let (cloud, _) ← (renderDirective directive tags usualTagDir (.generator fresh)).mapError
      .render
    return indexPage directive c.style cloud
  match shown with
  | .ok html => .page html
  | .error f => .trouble (.failed f)

end TagCloud.Site
