import Lexis.Diagnostic
import Mathlib.Data.List.Basic

/-!
# Diagnostic — the shown line

A report shows the line of its token trimmed of the blanks on both ends, whatever line ending is
among them (`shownLine_eq_trim`).  **So a carriage return at the end of the line does not show in
the report** (`report_eq_of_dropTrailing`): the caret stands within the line, or in front of it
where all of it is blank.
-/

namespace Lexis

namespace Text

theorem trimRight_concat {c : Char} (h : isBlank c = true) (text : List Char) :
    trimRight (text ++ [c]) = trimRight text := by
  rw [trimRight, List.reverse_append, List.reverse_singleton, List.singleton_append,
    List.dropWhile_cons_of_pos h, trimRight]

/-- A trailing blank is trimmed anyway. -/
theorem trimRight_dropTrailing {c : Char} (h : isBlank c = true) (text : List Char) :
    trimRight (dropTrailing c text) = trimRight text := by
  rw [dropTrailing]
  split
  · rename_i hlast
    obtain ⟨front, rfl⟩ := List.getLast?_eq_some_iff.mp hlast
    rw [List.dropLast_concat, trimRight_concat h]
  · rfl

/-- A character behind a text is trimmed from the left when all of them are blank. -/
theorem trimLeft_concat (text : List Char) (c : Char) :
    trimLeft (text ++ [c]) =
      if trimLeft text = [] then trimLeft [c] else trimLeft text ++ [c] := by
  rw [trimLeft, List.dropWhile_append, trimLeft]
  by_cases h : text.dropWhile isBlank = []
  · rw [if_pos h, h, List.isEmpty_nil, if_pos rfl, trimLeft]
  · rw [if_neg h, if_neg (by simpa using h)]

theorem trim_concat {c : Char} (h : isBlank c = true) (text : List Char) :
    trim (text ++ [c]) = trim text := by
  rw [trim, trimLeft_concat, trim]
  split
  · rename_i hnil
    rw [hnil, trimLeft, List.dropWhile_cons_of_pos h, List.dropWhile_nil]
  · exact trimRight_concat h _

end Text

namespace Diagnostic

theorem untabbed_concat_carriage (line : List Char) :
    untabbed (line ++ ['\r']) = untabbed line ++ ['\r'] :=
  List.map_append

/-- **The shown line is the line trimmed**: its line ending is blank. -/
theorem shownLine_eq_trim (line : List Char) : shownLine line = Text.trim (untabbed line) := by
  rw [shownLine, Text.trimRight_dropTrailing (by decide), Text.trimRight_dropTrailing (by decide),
    Text.trim]

/-- A carriage return behind a line does not move the caret: where it counts as indentation, all of
the line does. -/
theorem caretColumn_concat_carriage {line : List Char} {column : Int} (h : column ≤ line.length) :
    caretColumn (line ++ ['\r']) column = caretColumn line column := by
  have hblank : Text.trimLeft ['\r'] = [] := by decide
  rw [caretColumn, caretColumn, indentation, indentation, untabbed_concat_carriage,
    Text.trimLeft_concat, List.length_append]
  split
  · rename_i hnil
    rw [hnil, hblank, List.length_nil, List.length_singleton]
    omega
  · rw [List.length_append, Nat.add_sub_add_right]

end Diagnostic

/-- **A carriage return at the end of its line does not show in the report on a token.** -/
theorem Token.report_eq_of_dropTrailing {t t' : Token} (hfilename : t'.filename = t.filename)
    (hstart : t'.start = t.start)
    (hline : t'.lineText.toList = Text.dropTrailing '\r' t.lineText.toList)
    (hcolumn : t.start.column ≤ t'.lineText.toList.length) (detail : String) :
    t'.report detail = t.report detail := by
  have hsame : Diagnostic.shownLine t'.lineText.toList = Diagnostic.shownLine t.lineText.toList ∧
      Diagnostic.caretColumn t'.lineText.toList t.start.column =
        Diagnostic.caretColumn t.lineText.toList t.start.column := by
    rw [Diagnostic.shownLine_eq_trim, Diagnostic.shownLine_eq_trim]
    rw [Text.dropTrailing] at hline
    split at hline
    · rename_i hlast
      obtain ⟨line, hl⟩ := List.getLast?_eq_some_iff.mp hlast
      rw [hl, List.dropLast_concat] at hline
      rw [hl, hline, Diagnostic.untabbed_concat_carriage]
      rw [hline] at hcolumn
      have hblank : Text.isBlank '\r' = true := by decide
      exact ⟨(Text.trim_concat hblank _).symm,
        (Diagnostic.caretColumn_concat_carriage hcolumn).symm⟩
    · rw [hline]
      exact ⟨rfl, rfl⟩
  unfold report
  dsimp only
  rw [hfilename, hstart, hsame.1, hsame.2]

end Lexis
