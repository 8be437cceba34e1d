import Lexis.Main
import Lexis.Session
import Lexis.Workspace
import Lexis.Proofs.Grammar.Lexeme
import Lexis.Proofs.Grammar.Reading
import Lexis.Proofs.Cursor.Between
import Lexis.Proofs.Scan.Turn
import Lexis.Proofs.Scan.Run
import Lexis.Proofs.Scan.Language
import Lexis.Proofs.Scan.Spans
import Lexis.Proofs.Scan.Faults
import Lexis.Proofs.Scan.Viable
import Lexis.Proofs.Scan.Below
import Lexis.Proofs.Scan.RoundTrip
import Lexis.Proofs.Cursor.Consistent
import Lexis.Proofs.Scan.Session
import Lexis.Proofs.Scan.Literal
import Lexis.Proofs.Cursor.Below
import Lexis.Proofs.Scan.Resume
import Lexis.Proofs.Diagnostic.Line
import Lexis.Proofs.Grammar.Carriage
import Lexis.Proofs.Scan.Carriage
import Lexis.Proofs.Text.Fields
import Lexis.Proofs.Text.OneLine
import Lexis.Proofs.Diagnostic.Report
import Lexis.Proofs.Scan.Caret
import Lexis.Proofs.Lookup
import Lexis.Proofs.Workspace.Remarks
import Lexis.Proofs.Workspace.History
import Lexis.Proofs.Workspace.Client
import Lexis.Proofs.Text.Newlines
import Lexis.Proofs.Grammar.Newlines
import Lexis.Proofs.Scan.Newlines
import Lexis.Proofs.Command.Paths
import Lexis.Proofs.Command.Single
import Lexis.Proofs.Command.Agreement
import Lexis.Proofs.Command.Written
import Lexis.Proofs.Command.Ending
import Lexis.Proofs.Command.Outcome
import Lexis.Proofs.Diagnostic.Rendering
import Lexis.Proofs.Scan.Closing
import Lexis.Proofs.Command.Precedence
import Lexis.Proofs.Command.Override
import Lexis.Proofs.Text.Numeral
import Lexis.Proofs.Text.Quoted
import Lexis.Proofs.Dump.Rows
import Lexis.Proofs.Dump.Unambiguous
import Lexis.Proofs.Json.Reader
import Lexis.Proofs.Json.Printed
import Lexis.Proofs.Dump.Objects
import Lexis.Proofs.Scan.Relabel
import Lexis.Proofs.Scan.Calls
import Lexis.Proofs.Scan.Progress
