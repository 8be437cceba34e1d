import Lexis.Scanner
import Lexis.Text.Decimal

/-!
# Events

What the library notes while it works, for a reader who traces it: the end of a scan, and the
publishing of diagnostics.  Each event has one record, with its severity, its origin and a
message.
-/

namespace Lexis

/-- Something worth a note. -/
inductive Event where
  /-- A scan has read a whole source text. -/
  | scanned (filename : String) (count : Nat)
  /-- A fault has stopped a scan. -/
  | scanFailed (filename message : String)
  /-- The diagnostics of a document go out. -/
  | publishing (count : Nat) (uri : String)
  deriving DecidableEq, Repr

namespace Event

/-- The record of an event. -/
def record : Event → String
  | .scanned filename count =>
    "DEBUG:glscan.lexer:scanned " ++ filename ++ ": " ++ Text.integer count ++ " tokens"
  | .scanFailed filename message =>
    "DEBUG:glscan.lexer:scan of " ++ filename ++ " failed: " ++ message
  | .publishing count uri =>
    "DEBUG:glscan.lsp:publishing " ++ Text.integer count ++ " diagnostics for " ++ uri

end Event

/-- The event that ends a scan. -/
def Scan.event (scan : Scan) (filename : String) : Event :=
  match scan.fault? with
  | some fault => .scanFailed filename fault.message
  | none       => .scanned filename scan.tokens.length

end Lexis
