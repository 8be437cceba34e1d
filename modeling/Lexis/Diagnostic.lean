import Lexis.Text.Blank
import Lexis.Text.Decimal
import Lexis.Token.Basic

/-!
# Diagnostics

The four-line report on a token: the file and the line number, the source line without its outer
blanks, a caret under the token's first character, and a detail.  Tabs are shown as spaces, and
the caret moves left by the number of blanks that the line loses in front.

Two numbers can be too great for a report: that of the spaces in front of the caret, and that of the
line (`Token.excess?`).
-/

namespace Lexis

namespace Diagnostic

/-- A line with every tab made a space. -/
def untabbed (line : List Char) : List Char :=
  line.map fun c => if c = '\t' then ' ' else c

/-- The source line as a report shows it: without the blanks in front, then without its line
ending, then without the blanks behind. -/
def shownLine (line : List Char) : List Char :=
  Text.trimRight (Text.dropTrailing '\r' (Text.dropTrailing '\n' (Text.trimLeft (untabbed line))))

/-- The number of blanks in front of a line. -/
def indentation (line : List Char) : Nat :=
  line.length - (Text.trimLeft (untabbed line)).length

/-- The number of spaces in front of the caret. -/
def caretColumn (line : List Char) (column : Int) : Nat :=
  (column - indentation line).toNat

/-- The greatest number of spaces that a text can have: the greatest signed number of 64 bits. -/
def spaceLimit : Nat := 0x7FFFFFFFFFFFFFFF

/-- What is too much for a report. -/
inductive Excess where
  /-- The caret stands behind more spaces than a text can have. -/
  | spaces
  /-- The line number has more digits than are reported. -/
  | digits
  deriving DecidableEq, Repr

end Diagnostic

/-- The report on a token, with a detail under it. -/
def Token.report (token : Token) (detail : String) : String :=
  let line := token.lineText.toList
  "  File \"" ++ token.filename ++ "\", line " ++ Text.integer (token.start.line + 1) ++ "\n" ++
    "    " ++ String.ofList (Diagnostic.shownLine line) ++ "\n" ++
    "    " ++ String.ofList (List.replicate (Diagnostic.caretColumn line token.start.column) ' ') ++
    "^\n" ++ detail

/-- What keeps a token from being reported on, if anything.  The spaces are made first. -/
def Token.excess? (token : Token) : Option Diagnostic.Excess :=
  if Diagnostic.spaceLimit <
      Diagnostic.caretColumn token.lineText.toList token.start.column then some .spaces
  else if Text.isWritable (token.start.line + 1) then none
  else some .digits

/-- The report on a token, where nothing is too much for one. -/
def Token.report? (token : Token) (detail : String) : Option String :=
  if token.excess? = none then some (token.report detail) else none

/-- There can be a report where the spaces fit in a text and the line number can be written. -/
theorem Token.excess?_eq_none_iff {token : Token} :
    token.excess? = none ↔
      Diagnostic.caretColumn token.lineText.toList token.start.column ≤ Diagnostic.spaceLimit ∧
        Text.isWritable (token.start.line + 1) = true := by
  rw [excess?, ← Nat.not_lt]
  generalize Text.isWritable (token.start.line + 1) = writable
  split
  · simp [*]
  · cases writable <;> simp [*]

end Lexis
