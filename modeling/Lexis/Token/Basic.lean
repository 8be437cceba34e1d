import Lexis.Token.Kind
import Lexis.Token.Position

/-!
# Token

A token is a classified piece of a source text.  It keeps the name of the file and the text of
the line it starts on, so that a diagnostic can be rendered from the token alone.
-/

namespace Lexis

/-- A classified piece of a source text. -/
structure Token where
  kind     : Kind
  value    : String
  filename : String
  lineText : String
  start    : Position
  stop     : Position
  deriving DecidableEq, Repr, Inhabited

namespace Token

/-- A mark of no width, where a stream of tokens stops. -/
def mark (filename lineText : String) (position : Position) : Token :=
  ⟨.eof, "", filename, lineText, position, position⟩

end Token

end Lexis
