/-!
# Token — positions

Where a scan stands: a line, and a place within it.  The index and the column count the
characters from the start of the line and move together; all three numbers start at zero and may
be any integers.
-/

namespace Lexis

/-- A place in a source text. -/
structure Position where
  index  : Int
  line   : Int
  column : Int
  deriving DecidableEq, Repr, Inhabited

namespace Position

/-- The start of a line. -/
def lineStart (line : Int) : Position :=
  ⟨0, line, 0⟩

/-- The place `count` characters further along the line. -/
def advanceBy (p : Position) (count : Nat) : Position :=
  ⟨p.index + count, p.line, p.column + count⟩

/-- The place one character further along the line. -/
def advance (p : Position) : Position :=
  p.advanceBy 1

/-- The start of the line below. -/
def nextLine (p : Position) : Position :=
  lineStart (p.line + 1)

@[simp] theorem advanceBy_zero (p : Position) : p.advanceBy 0 = p := by
  simp [advanceBy]

theorem advanceBy_advanceBy (p : Position) (m n : Nat) :
    (p.advanceBy m).advanceBy n = p.advanceBy (m + n) := by
  simp only [advanceBy, mk.injEq, true_and]
  constructor <;> omega

theorem advanceBy_succ (p : Position) (n : Nat) : p.advanceBy (n + 1) = p.advance.advanceBy n := by
  rw [advance, advanceBy_advanceBy, Nat.add_comm]

end Position

end Lexis
