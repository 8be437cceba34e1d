import Lexis.Fault
import Lexis.Text.Lines
import Lexis.Token.Charset

/-!
# Cursor

A cursor stands in a source text: it holds the text ahead of it, the number of characters passed,
its position, and the texts of its own line and of the lines below.  Passing a character and
moving the position are separate motions, `pass` and `shift`, so that a caller may take one
without the other; `advance` takes both, and `step` also begins a new line behind a line feed.

`advanceBy` and `stepBy` repeat a motion, and `skipLine` steps over the rest of the line.
-/

namespace Lexis

/-- A place in a source text, with what lies ahead. -/
structure Cursor where
  filename : String
  /-- The text from the current character on. -/
  rest : List Char
  /-- The number of characters passed. -/
  offset : Nat
  position : Position
  /-- The number of lines begun since the first. -/
  lineIndex : Nat
  /-- The text of the current line, then those of the lines below. -/
  lines : List String
  deriving DecidableEq, Repr

namespace Cursor

/-- The start of a source text whose first line has a given number. -/
def ofSource (source filename : String) (line : Int) : Cursor where
  filename  := filename
  rest      := source.toList
  offset    := 0
  position  := .lineStart line
  lineIndex := 0
  lines     := (Text.lines source.toList).map String.ofList

/-- The current character, if the text does not end here. -/
def current? (c : Cursor) : Option Char :=
  c.rest.head?

/-- The text of the current line; empty below the last line. -/
def lineText (c : Cursor) : String :=
  c.lines.headD ""

/-! ### Motions -/

/-- The cursor behind the current character, its position unmoved. -/
def pass (c : Cursor) : Cursor :=
  { c with rest := c.rest.tail, offset := c.offset + 1 }

/-- The cursor with its position one character further. -/
def shift (c : Cursor) : Cursor :=
  { c with position := c.position.advance }

/-- The cursor with its position at the start of the line below. -/
def nextLine (c : Cursor) : Cursor :=
  { c with position := c.position.nextLine, lineIndex := c.lineIndex + 1, lines := c.lines.tail }

/-- The cursor behind the current character, on the same line. -/
def advance (c : Cursor) : Cursor :=
  c.shift.pass

/-- The cursor behind the current character, on the line below if that is a line feed. -/
def step (c : Cursor) : Cursor :=
  if c.current? = some '\n' then c.nextLine.pass else c.advance

/-- The cursor `count` characters further, on the same line. -/
def advanceBy (c : Cursor) (count : Nat) : Cursor :=
  { c with
    rest     := c.rest.drop count
    offset   := c.offset + count
    position := c.position.advanceBy count }

/-- The cursor after a number of steps. -/
def stepBy (c : Cursor) : Nat → Cursor
  | 0         => c
  | count + 1 => c.step.stepBy count

/-- The cursor behind the next line feed, or at the end of the text where there is none. -/
def skipLine (c : Cursor) : Cursor :=
  let ahead := c.advanceBy (c.rest.takeWhile (· ≠ '\n')).length
  if ahead.rest.isEmpty then ahead else ahead.step

/-! ### Tokens and faults at the cursor -/

/-- A token that ends at the cursor. -/
def token (c : Cursor) (kind : Kind) (value : String) (start : Position) (lineText : String) :
    Token :=
  ⟨kind, value, c.filename, lineText, start, c.position⟩

/-- A fault in the cursor's file, at a given place of a given line. -/
def faultAt (c : Cursor) (kind : FaultKind) (detail : String) (start : Position)
    (lineText : String) : Fault :=
  (Token.mark c.filename lineText start).fault kind detail

/-- A fault at the cursor. -/
def fault (c : Cursor) (kind : FaultKind) (detail : String) : Fault :=
  c.faultAt kind detail c.position c.lineText

/-! ### What the motions do to the text ahead -/

/-- Dropping a run leaves what is behind the run. -/
theorem drop_length_takeWhile {α : Type} (p : α → Bool) (items : List α) :
    items.drop (items.takeWhile p).length = items.dropWhile p := by
  induction items with
  | nil => rfl
  | cons a items ih =>
    by_cases h : p a = true
    · rw [List.takeWhile_cons_of_pos h, List.dropWhile_cons_of_pos h, ← ih]
      rfl
    · rw [List.takeWhile_cons_of_neg h, List.dropWhile_cons_of_neg h]
      rfl

@[simp] theorem advanceBy_zero (c : Cursor) : c.advanceBy 0 = c := by
  simp [advanceBy]

theorem advanceBy_succ (c : Cursor) (n : Nat) : c.advanceBy (n + 1) = c.advance.advanceBy n := by
  simp only [advanceBy, advance, pass, shift, Position.advanceBy_succ, List.drop_tail, mk.injEq,
    true_and, and_true]
  omega

@[simp] theorem rest_advance (c : Cursor) : c.advance.rest = c.rest.tail := rfl

@[simp] theorem rest_advanceBy (c : Cursor) (n : Nat) : (c.advanceBy n).rest = c.rest.drop n := rfl

@[simp] theorem rest_step (c : Cursor) : c.step.rest = c.rest.tail := by
  unfold step; split <;> rfl

@[simp] theorem offset_step (c : Cursor) : c.step.offset = c.offset + 1 := by
  unfold step; split <;> rfl

@[simp] theorem rest_stepBy (c : Cursor) (n : Nat) : (c.stepBy n).rest = c.rest.drop n := by
  induction n generalizing c with
  | zero => rfl
  | succ n ih => rw [stepBy, ih, rest_step, List.drop_tail]

@[simp] theorem offset_stepBy (c : Cursor) (n : Nat) : (c.stepBy n).offset = c.offset + n := by
  induction n generalizing c with
  | zero => rfl
  | succ n ih => rw [stepBy, ih, offset_step]; omega

/-- What a skip leaves ahead of the cursor. -/
theorem rest_skipLine (c : Cursor) :
    c.skipLine.rest = (c.rest.dropWhile (· ≠ '\n')).tail := by
  simp only [skipLine, rest_advanceBy, drop_length_takeWhile]
  split
  · rename_i h
    rw [rest_advanceBy, drop_length_takeWhile, List.isEmpty_iff.1 h]
    rfl
  · rw [rest_step, rest_advanceBy, drop_length_takeWhile]

/-- A skip leaves less, where anything was left. -/
theorem length_rest_skipLine_lt {c : Cursor} (h : c.rest ≠ []) :
    c.skipLine.rest.length < c.rest.length := by
  rw [rest_skipLine, List.length_tail]
  have le := (List.dropWhile_suffix (l := c.rest) (· ≠ '\n')).length_le
  have pos := List.length_pos_iff.2 h
  omega

theorem length_rest_skipLine_le (c : Cursor) : c.skipLine.rest.length ≤ c.rest.length := by
  rw [rest_skipLine, List.length_tail]
  have le := (List.dropWhile_suffix (l := c.rest) (· ≠ '\n')).length_le
  omega

end Cursor

end Lexis
