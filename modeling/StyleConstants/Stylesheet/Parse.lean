import StyleConstants.Dialect
import StyleConstants.Stylesheet.Braced
import StyleConstants.Stylesheet.Indented

/-!
# Reading a stylesheet
-/

namespace StyleConstants.Stylesheet

/-- The stylesheet that `source` spells in the dialect. -/
def parse (dialect : Dialect) (source : List Char) : Except Rejection Stylesheet :=
  match dialect with
  | .braced => (Braced.parse source).map (⟨·⟩)
  | .indented => (Indented.parse source).map (⟨·⟩)

end StyleConstants.Stylesheet
