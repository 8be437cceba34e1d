import Lexis.Turn

/-!
# Scanner

A scanner takes turns at a cursor and keeps the tokens they read.  A fault leaves a token too, its
anchor, and is recorded; the last one counts.  A scan takes turns until the text ends, when it
closes the stream with an end-of-file token, or until a fault.

Once a scan has finished or a fault is recorded, scanning again gives the same answer and changes
nothing.
-/

namespace Lexis

/-- A scan under way. -/
structure Scanner where
  cursor   : Cursor
  tokens   : Array Token
  /-- The last fault that a turn came upon. -/
  fault?   : Option Fault
  /-- Whether the stream of tokens is closed. -/
  finished : Bool
  deriving DecidableEq, Repr

/-- The outcome of a scan: the tokens, and the fault that stopped it, if one did. -/
structure Scan where
  tokens : List Token
  fault? : Option Fault
  deriving DecidableEq, Repr

namespace Scan

/-- Whether a fault stopped the scan. -/
def failed (scan : Scan) : Bool :=
  scan.fault?.isSome

/-- The report on the fault that stopped the scan. -/
def report? (scan : Scan) : Option String :=
  scan.fault?.map Fault.report

/-- The scan, unless a fault stopped it that cannot be reported: a fault is reported as soon as it
is found. -/
def answer? (scan : Scan) : Option Scan :=
  if scan.fault?.all Fault.canReport then some scan else none

end Scan

namespace Scanner

/-- A scanner at the start of a source text. -/
def ofSource (source filename : String) (line : Int) : Scanner :=
  ⟨.ofSource source filename line, #[], none, false⟩

/-! ### Turns -/

/-- The scanner after a turn. -/
def take (s : Scanner) (turn : Turn) : Scanner :=
  match turn.reading with
  | .nothing     => { s with cursor := turn.cursor }
  | .token token => { s with cursor := turn.cursor, tokens := s.tokens.push token }
  | .fault fault =>
    { s with cursor := turn.cursor, tokens := s.tokens.push fault.anchor, fault? := some fault }

/-- The scanner after one turn at its cursor. -/
def next (s : Scanner) : Scanner :=
  s.take s.cursor.turn

/-- The end-of-file token that would close the stream: at the end of the last token, or at the
cursor where there is none. -/
def closing (s : Scanner) : Token :=
  match s.tokens.back? with
  | some last => .mark last.filename last.lineText last.stop
  | none      => .mark s.cursor.filename s.cursor.lineText s.cursor.position

/-- The scanner with its stream of tokens closed. -/
def close (s : Scanner) : Scanner :=
  { s with tokens := s.tokens.push s.closing }

/-! ### Scanning -/

theorem cursor_take (s : Scanner) (turn : Turn) : (s.take turn).cursor = turn.cursor := by
  unfold take
  split <;> rfl

/-- The scanner after turns up to the end of the text or the first fault. -/
def run (s : Scanner) : Scanner :=
  if s.cursor.rest = [] ∨ s.fault?.isSome then s else s.next.run
termination_by s.cursor.rest.length
decreasing_by
  rename_i h
  rw [next, cursor_take]
  exact Cursor.length_rest_turn_lt fun hnil => h (.inl hnil)

/-- The scanner after a scan that had not finished. -/
def finish (s : Scanner) : Scanner :=
  if s.run.fault?.isSome then s.run else { s.run.close with finished := true }

/-- The scanner after a scan. -/
def complete (s : Scanner) : Scanner :=
  if s.fault?.isSome || s.finished then s else s.finish

/-- The tokens of a complete scan, or the fault that stopped it. -/
def tokenize (s : Scanner) : Except Fault (List Token) :=
  match s.complete.fault? with
  | some fault => .error fault
  | none       => .ok s.complete.tokens.toList

/-- The outcome of a complete scan. -/
def scan (s : Scanner) : Scan :=
  ⟨s.complete.tokens.toList, s.complete.fault?⟩

end Scanner

/-- The tokens of a source text, or the first fault in it. -/
def tokenize (source filename : String) (line : Int) : Except Fault (List Token) :=
  (Scanner.ofSource source filename line).tokenize

/-- The tokens of a source text up to the first fault, and that fault. -/
def scan (source filename : String) (line : Int) : Scan :=
  (Scanner.ofSource source filename line).scan

end Lexis
