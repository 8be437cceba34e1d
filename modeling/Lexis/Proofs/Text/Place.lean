import Lexis.Text.Lines
import Lexis.Token.Position
import Mathlib.Algebra.Ring.Nat
import Mathlib.Data.List.Induction

/-!
# Text — places

A place in a text cuts it in two, `before ++ after`.  The lines of the text are then the lines that
end in `before`, one line that the place cuts, and the lines that begin in `after`
(`exists_lines`).  So the place has a line number and a column (`Position.behind`), and from these
two its offset is found again (`Position.offsetIn_behind`).
-/

namespace Lexis

namespace Text

/-- What a text holds of its first line. -/
def firstLine (text : List Char) : List Char :=
  (lines text).headD []

/-- What a text holds of its last line. -/
def lastLine (text : List Char) : List Char :=
  (text.reverse.takeWhile (· ≠ '\n')).reverse

/-- The offset at which a line of a text begins. -/
def lineOffset (text : List Char) (index : Nat) : Nat :=
  (((lines text).take index).map fun line => line.length + 1).sum

@[simp] theorem firstLine_nil : firstLine [] = [] := rfl

@[simp] theorem lastLine_nil : lastLine [] = [] := rfl

theorem lines_eq_cons (text : List Char) : lines text = firstLine text :: (lines text).tail := by
  rw [firstLine]
  cases h : lines text with
  | nil => exact absurd h (fields_ne_nil _ _)
  | cons => rfl

theorem lines_feed_cons (text : List Char) : lines ('\n' :: text) = [] :: lines text := by
  obtain ⟨field, rest, hf, hc⟩ := fields_cons_eq '\n' '\n' text
  rw [lines, hc, if_pos rfl, lines, hf]

theorem lines_cons {c : Char} (hc : c ≠ '\n') (text : List Char) :
    lines (c :: text) = (c :: firstLine text) :: (lines text).tail := by
  obtain ⟨field, rest, hf, hf'⟩ := fields_cons_eq '\n' c text
  rw [firstLine, lines, hf', if_neg hc, lines, hf]
  rfl

@[simp] theorem lastLine_append_feed (text : List Char) : lastLine (text ++ ['\n']) = [] := by
  simp [lastLine]

theorem lastLine_append_singleton {c : Char} (hc : c ≠ '\n') (text : List Char) :
    lastLine (text ++ [c]) = lastLine text ++ [c] := by
  simp [lastLine, hc]

/-- The last line of a text is that of what is below any of its line feeds. -/
theorem lastLine_append_feed_cons (above below : List Char) :
    lastLine (above ++ '\n' :: below) = lastLine below := by
  induction below using List.reverseRecOn with
  | nil => exact lastLine_append_feed above
  | append_singleton below c ih =>
      rw [← List.cons_append, ← List.append_assoc]
      by_cases hc : c = '\n'
      · rw [hc, lastLine_append_feed, lastLine_append_feed]
      · rw [lastLine_append_singleton hc, ih, lastLine_append_singleton hc]

/-- The first line of a text is that of what is above any of its line feeds. -/
theorem firstLine_append_feed_cons (above below : List Char) :
    firstLine (above ++ '\n' :: below) = firstLine above := by
  induction above with
  | nil => rw [List.nil_append, firstLine, lines_feed_cons]; rfl
  | cons c above ih =>
      by_cases hc : c = '\n'
      · rw [hc, List.cons_append, firstLine, firstLine, lines_feed_cons, lines_feed_cons]
        rfl
      · rw [List.cons_append, firstLine, firstLine, lines_cons hc, lines_cons hc]
        exact congrArg (c :: ·) ih

/-- **The lines of a text, at a place.**  The lines above it are as many as the line feeds before
it, and they and the part of the cut line before the place make up what is before. -/
theorem exists_lines (before : List Char) :
    ∃ above : List (List Char), above.length = before.count '\n' ∧
      (above.map fun line => line.length + 1).sum + (lastLine before).length = before.length ∧
      ∀ after, lines (before ++ after) =
        above ++ (lastLine before ++ firstLine after) :: (lines after).tail := by
  -- from the end: a line feed closes the cut line, any other character lengthens it
  induction before using List.reverseRecOn with
  | nil => exact ⟨[], rfl, rfl, fun after => lines_eq_cons after⟩
  | append_singleton before c ih =>
      obtain ⟨above, hlen, hsum, hlines⟩ := ih
      by_cases hc : c = '\n'
      · subst hc
        refine ⟨above ++ [lastLine before], by simp [hlen], ?_, fun after => ?_⟩
        · simp only [List.map_append, List.map_cons, List.map_nil, List.sum_append, List.sum_cons,
            List.sum_nil, lastLine_append_feed, List.length_append, List.length_cons,
            List.length_nil]
          omega
        · rw [List.append_assoc, List.singleton_append, hlines, firstLine, lines_feed_cons,
            lines_eq_cons after]
          simp
      · refine ⟨above, by simp [hlen, hc], ?_, fun after => ?_⟩
        · rw [lastLine_append_singleton hc, List.length_append, List.length_append]
          omega
        · rw [List.append_assoc, List.singleton_append, hlines, firstLine, lines_cons hc,
            lastLine_append_singleton hc]
          simp

/-- The line that a place cuts. -/
theorem getElem?_lines (before after : List Char) :
    (lines (before ++ after))[before.count '\n']? = some (lastLine before ++ firstLine after) := by
  obtain ⟨above, hlen, -, hlines⟩ := exists_lines before
  rw [hlines, ← hlen, List.getElem?_append_right (Nat.le_refl _), Nat.sub_self]
  rfl

/-- The last line of a text is the last of its lines. -/
theorem getLast?_lines (text : List Char) : (lines text).getLast? = some (lastLine text) := by
  obtain ⟨above, -, -, hlines⟩ := exists_lines text
  have hlines := hlines []
  rw [List.append_nil, firstLine_nil, List.append_nil] at hlines
  rw [hlines]
  exact List.getLast?_concat

/-- The offset of a place is that of its line and its column. -/
theorem lineOffset_add_length (before after : List Char) :
    lineOffset (before ++ after) (before.count '\n') + (lastLine before).length =
      before.length := by
  obtain ⟨above, hlen, hsum, hlines⟩ := exists_lines before
  rw [lineOffset, hlines, ← hlen, List.take_left]
  exact hsum

end Text

namespace Position

/-- The position behind a text whose first line has a given number. -/
def behind (line : Int) (before : List Char) : Position :=
  let column : Int := (Text.lastLine before).length
  ⟨column, line + before.count '\n', column⟩

/-- The offset of a position in a text whose first line has a given number. -/
def offsetIn (text : List Char) (line : Int) (p : Position) : Int :=
  Text.lineOffset text (p.line - line).toNat + p.column

@[simp] theorem behind_nil (line : Int) : behind line [] = lineStart line := by
  simp [behind, lineStart]

@[simp] theorem behind_append_feed (line : Int) (before : List Char) :
    behind line (before ++ ['\n']) = (behind line before).nextLine := by
  simp only [behind, nextLine, lineStart, Text.lastLine_append_feed, List.count_append,
    List.count_singleton_self, List.length_nil, Int.natCast_add, mk.injEq]
  omega

theorem behind_append_singleton {c : Char} (hc : c ≠ '\n') (line : Int) (before : List Char) :
    behind line (before ++ [c]) = (behind line before).advance := by
  simp [behind, advance, advanceBy, Text.lastLine_append_singleton hc, hc]

/-- Below a line feed the lines are counted from the number of the line that begins there. -/
theorem behind_append_feed_cons (line : Int) (above before : List Char) :
    behind line (above ++ '\n' :: before) = behind (line + above.count '\n' + 1) before := by
  simp only [behind, Text.lastLine_append_feed_cons, List.count_append, List.count_cons_self,
    mk.injEq, true_and, and_true]
  omega

@[simp] theorem behind_line (line : Int) (before : List Char) :
    (behind line before).line = line + before.count '\n' :=
  rfl

@[simp] theorem behind_column (line : Int) (before : List Char) :
    (behind line before).column = (Text.lastLine before).length :=
  rfl

/-- The line of the position behind a text, counted from the first. -/
theorem toNat_behind_line_sub (line : Int) (before : List Char) :
    ((behind line before).line - line).toNat = before.count '\n' := by
  rw [behind_line]
  omega

/-- The offset of the position behind a text is the text's length. -/
theorem offsetIn_behind (line : Int) (before after : List Char) :
    (behind line before).offsetIn (before ++ after) line = before.length := by
  rw [offsetIn, toNat_behind_line_sub, behind_column, ← Text.lineOffset_add_length before after]
  omega

end Position

end Lexis
