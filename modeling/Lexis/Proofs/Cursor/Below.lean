import Lexis.Proofs.Cursor.Between
import Lexis.Turn

/-!
# Cursor — below other lines

A source may stand below other lines.  A cursor in it then counts more characters and more lines,
and everything else that it keeps is as if its source stood alone (`between_append_feed`).  What is
read does not depend on these two counts: **a turn below other lines** has the reading of the turn
in the source alone, and leaves the same cursor with the same counts added (`turn_below`).
-/

namespace Lexis

/-- The cursor, with so many characters and lines counted above its source. -/
def Cursor.below (c : Cursor) (characters lines : Nat) : Cursor :=
  { c with offset := characters + c.offset, lineIndex := lines + c.lineIndex }

/-- The turn, with so many characters and lines counted above its source. -/
def Turn.below (t : Turn) (characters lines : Nat) : Turn :=
  ⟨t.reading, t.cursor.below characters lines⟩

namespace Cursor

/-- Below a line feed a cursor stands as in a source that begins there. -/
theorem between_append_feed (filename : String) (line : Int) (above before after : List Char) :
    between filename line (above ++ '\n' :: before) after =
      (between filename (line + above.count '\n' + 1) before after).below (above.length + 1)
        (above.count '\n' + 1) := by
  simp only [between, below, Position.behind_append_feed_cons, Text.lastLine_append_feed_cons,
    List.length_append, List.length_cons, List.count_append, List.count_cons_self, mk.injEq,
    true_and, and_true]
  omega

variable (c : Cursor) (characters lines : Nat)

@[simp] theorem below_current? : (c.below characters lines).current? = c.current? := rfl

@[simp] theorem below_rest : (c.below characters lines).rest = c.rest := rfl

@[simp] theorem below_position : (c.below characters lines).position = c.position := rfl

@[simp] theorem below_lineText : (c.below characters lines).lineText = c.lineText := rfl

@[simp] theorem below_filename : (c.below characters lines).filename = c.filename := rfl

@[simp] theorem below_offset : (c.below characters lines).offset = characters + c.offset := rfl

/-! ### Motions -/

theorem advance_below : (c.below characters lines).advance = c.advance.below characters lines := rfl

theorem step_below : (c.below characters lines).step = c.step.below characters lines := by
  unfold step
  rw [below_current?]
  split <;> rfl

theorem stepBy_below (n : Nat) :
    (c.below characters lines).stepBy n = (c.stepBy n).below characters lines := by
  induction n generalizing c with
  | zero => rfl
  | succ n ih => rw [stepBy, stepBy, step_below, ih]

theorem advanceBy_below (n : Nat) :
    (c.below characters lines).advanceBy n = (c.advanceBy n).below characters lines := by
  simp only [advanceBy, below, Nat.add_assoc]

theorem skipLine_below :
    (c.below characters lines).skipLine = c.skipLine.below characters lines := by
  simp only [skipLine, below_rest, advanceBy_below, step_below]
  split <;> rfl

/-! ### Ways to read -/

theorem failAt_below (kind : FaultKind) (detail : String) (start : Position) (lineText : String) :
    (c.below characters lines).failAt kind detail start lineText =
      (c.failAt kind detail start lineText).below characters lines := by
  rw [failAt, failAt, skipLine_below]
  rfl

theorem reject_below (what : String) (intruder : Char) :
    (c.below characters lines).reject what intruder =
      (c.reject what intruder).below characters lines := by
  unfold reject
  split <;> exact failAt_below c characters lines _ _ _ _

theorem finishWord_below (what : String) (kind : Kind) (value : String) (start : Position)
    (lineText : String) :
    (c.below characters lines).finishWord what kind value start lineText =
      (c.finishWord what kind value start lineText).below characters lines := by
  have hintruder : (c.below characters lines).intruder? = c.intruder? := rfl
  rw [finishWord, finishWord, hintruder]
  cases c.intruder? with
  | none => rfl
  | some intruder => exact reject_below c characters lines what intruder

theorem readRun_below (among : Char → Bool) (kind : Kind) (what : String) :
    (c.below characters lines).readRun among kind what =
      (c.readRun among kind what).below characters lines := by
  rw [readRun, below_rest, advanceBy_below, finishWord_below]
  rfl

theorem readString_below :
    (c.below characters lines).readString = c.readString.below characters lines := by
  rw [readString, readString, below_rest]
  cases Literal.body false c.rest.tail with
  | none =>
      simp only [advance_below, stepBy_below, failAt_below]
      rfl
  | some texts =>
      simp only [advance_below, stepBy_below, finishWord_below]
      rfl

/-- **A turn below other lines** is the turn of the source alone. -/
theorem turn_below : (c.below characters lines).turn = c.turn.below characters lines := by
  unfold turn
  rw [below_current?]
  cases c.current? with
  | none => exact failAt_below c characters lines _ _ _ _
  | some ch =>
      dsimp only
      split
      · exact congrArg (Turn.mk .nothing) (step_below c characters lines)
      split
      · exact readRun_below c characters lines _ _ _
      split
      · exact readRun_below c characters lines _ _ _
      cases Kind.ofPunctuation? ch with
      | some kind => rfl
      | none =>
          dsimp only
          split
          · exact readString_below c characters lines
          · exact failAt_below c characters lines _ _ _ _

end Cursor

end Lexis
