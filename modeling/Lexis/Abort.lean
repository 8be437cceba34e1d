import Lexis.Diagnostic
import Lexis.FileTree
import Lexis.Text.Utf8
import Lexis.Toml.Flaw

/-!
# Aborts

The mishaps that end a run without an exit code.  Most are beyond what a report on the input or on
its configuration can speak of: the configuration cannot be looked at or is too much to read, a
number is too much to write, a caret is too far to the right, or the output has no place to go.
-/

namespace Lexis

/-- A mishap that ends a run without a code. -/
inductive Abort where
  /-- A file cannot be looked at, or cannot be written. -/
  | file (error : FileError) (path : Path)
  /-- The bytes of the configuration are no text. -/
  | configNotText (failure : Text.Utf8.Failure)
  /-- An integer in the configuration has so many digits, more than are read. -/
  | configTooManyDigits (count : Nat)
  /-- A value in the configuration stands within more others than are read. -/
  | configTooDeep
  /-- A value in the place of a format is too deep to be shown. -/
  | formatTooDeep
  /-- A number has more digits than are reported. -/
  | numberTooLong
  /-- A caret stands behind more spaces than a text can have. -/
  | caretTooFar
  /-- The start line is asked for with nothing in its place. -/
  | noStartLine
  deriving DecidableEq, Repr

namespace Abort

/-- The mishap of a report that there is too much for. -/
def ofExcess : Diagnostic.Excess → Abort
  | .spaces => .caretTooFar
  | .digits => .numberTooLong

/-- The words on numbers of too many digits. -/
def beyondDigits (count : String) : String :=
  "Exceeds the limit (" ++ Text.integer Text.digitLimit ++
    " digits) for integer string conversion" ++ count ++
    "; use sys.set_int_max_str_digits() to increase the limit"

/-- A mishap in words. -/
def message : Abort → String
  | .file e path                => e.message path
  | .configNotText failure      => failure.message
  | .configTooManyDigits count  => beyondDigits (": value has " ++ Text.integer count ++ " digits")
  | .configTooDeep              => "maximum recursion depth exceeded"
  | .formatTooDeep              =>
    "maximum recursion depth exceeded while getting the repr of an object"
  | .numberTooLong              => beyondDigits ""
  | .caretTooFar                => "cannot fit 'int' into an index-sized integer"
  | .noStartLine                => "'<' not supported between instances of 'list' and 'int'"

end Abort

end Lexis
