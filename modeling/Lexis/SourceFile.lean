import Lexis.Dump
import Lexis.FileTree
import Lexis.Scanner
import Lexis.Text.Lines
import Lexis.Text.Utf8

/-!
# Source files

The reading of a source file: its bytes are one UTF-8 text, whose line ends are made line feeds
before it is scanned.  The lines are counted from a start line, and where that makes a number too
long to be reported there is no dump.  Nor is there one where a fault cannot be reported.
-/

namespace Lexis

/-- Why there is no dump of a source file. -/
inductive SourceError where
  | unreadable (error : FileError)
  | notText (failure : Text.Utf8.Failure)
  | fault (fault : Fault)
  /-- There is too much for the dump, or for the report on a fault. -/
  | tooMuch (excess : Diagnostic.Excess)
  deriving DecidableEq, Repr

/-- The text of a source file. -/
def sourceText (entry : Entry) : Except SourceError String :=
  match entry.read with
  | .error e  => .error (.unreadable e)
  | .ok bytes =>
    match Text.Utf8.decode bytes with
    | .error failure => .error (.notText failure)
    | .ok text       => .ok (String.ofList (Text.unifyNewlines text))

/-- What a fault comes to: it is reported, if nothing is too much for a report. -/
def SourceError.ofFault (fault : Fault) : SourceError :=
  match fault.anchor.excess? with
  | none        => .fault fault
  | some excess => .tooMuch excess

/-- The dump of a source file's tokens. -/
def dumpSource (entry : Entry) (filename : String) (startLine : Int) (format : Format) :
    Except SourceError String :=
  match sourceText entry with
  | .error e     => .error e
  | .ok source =>
    match tokenize source filename (startLine - 1) with
    | .error fault => .error (.ofFault fault)
    | .ok tokens   =>
      if format.canWrite tokens then .ok (format.write tokens) else .error (.tooMuch .digits)

end Lexis
