import Lexis.Proofs.Diagnostic.Report
import Mathlib.Algebra.Ring.Int.Defs

/-!
# Diagnostic — the report on any token

A report shows the line of its token without the blanks on its two ends (`Text.IsTrim`), and the
caret moves left by the number of blanks in front (`indentation_eq`), whatever characters the line
holds.  It keeps its place under a character that is no blank
(`getElem?_shownLine_caretColumn`), and blanks put behind a line that has ink do not show
(`shownLine_append_blanks`).

**So a report shows every token as it should** (`Token.report?_shows`) whose line number can be
written and whose caret is not too far to the right, and there is no report on the others.
-/

namespace Lexis

open Text (HasInk isBlank)

/-! ### The line without its outer blanks -/

namespace Text

/-- A text is what is left of a line without the blanks on its two ends. -/
structure IsTrim (line shown : List Char) : Prop where
  cut  : ∃ front back, line = front ++ (shown ++ back) ∧ ¬ HasInk front ∧ ¬ HasInk back
  head : ∀ c ∈ shown.head?, isBlank c = false
  last : ∀ c ∈ shown.getLast?, isBlank c = false

theorem not_hasInk_takeWhile (text : List Char) : ¬ HasInk (text.takeWhile isBlank) := by
  rintro ⟨c, hc, hink⟩
  rw [List.mem_takeWhile_imp hc] at hink
  exact nomatch hink

/-- The right trim of a text, with the blanks that it takes. -/
theorem trimRight_append_takeWhile (text : List Char) :
    trimRight text ++ (text.reverse.takeWhile isBlank).reverse = text := by
  rw [trimRight, ← List.reverse_append, List.takeWhile_append_dropWhile, List.reverse_reverse]

theorem isTrim_trim (line : List Char) : IsTrim line (trim line) where
  cut := by
    refine ⟨line.takeWhile isBlank, ((trimLeft line).reverse.takeWhile isBlank).reverse, ?_,
      not_hasInk_takeWhile line, ?_⟩
    · rw [trim, trimRight_append_takeWhile, trimLeft, List.takeWhile_append_dropWhile]
    · rw [hasInk_reverse]
      exact not_hasInk_takeWhile _
  head _ := head?_trim
  last _ := trimRight_getLast

end Text

/-! ### The caret -/

namespace Diagnostic

open Text

theorem trimLeft_untabbed (line : List Char) :
    trimLeft (untabbed line) = untabbed (trimLeft line) := by
  have hblank : (isBlank ∘ fun c => if c = '\t' then ' ' else c) = isBlank :=
    funext isBlank_untab
  rw [trimLeft, untabbed, List.dropWhile_map, hblank, untabbed, trimLeft]

/-- **The caret moves left by the number of blanks in front of the line.** -/
theorem indentation_eq (line : List Char) :
    indentation line = (line.takeWhile isBlank).length := by
  have hsplit := congrArg List.length (List.takeWhile_append_dropWhile (p := isBlank) (l := line))
  rw [List.length_append] at hsplit
  rw [indentation, trimLeft_untabbed, untabbed, List.length_map, trimLeft]
  omega

/-- The caret is under the character at its column, when that is no blank. -/
theorem getElem?_shownLine_caretColumn {text : List Char} {column : Nat} {c : Char}
    (hc : text[column]? = some c) (hink : isBlank c = false) :
    (shownLine text)[caretColumn text column]? = some c := by
  obtain ⟨hlt, hget⟩ := List.getElem?_eq_some_iff.mp hc
  obtain ⟨before, after, rfl, rfl⟩ :
      ∃ before after, text = before ++ c :: after ∧ before.length = column := by
    refine ⟨text.take column, text.drop (column + 1), ?_,
      List.length_take_of_le (Nat.le_of_lt hlt)⟩
    rw [← hget, ← List.drop_eq_getElem_cons hlt, List.take_append_drop]
  have htab : c ≠ '\t' := by
    rintro rfl
    exact absurd hink (by decide)
  exact (getElem?_shownLine_iff htab).mpr
    ⟨⟨c, List.mem_append_right _ List.mem_cons_self, hink⟩, ⟨c, List.mem_cons_self, hink⟩⟩

/-! ### Blanks behind the line -/

variable {line blanks : List Char}

theorem untabbed_append (line blanks : List Char) :
    untabbed (line ++ blanks) = untabbed line ++ untabbed blanks :=
  List.map_append

/-- Blanks behind a line that has ink are not shown. -/
theorem shownLine_append_blanks (hline : HasInk line) (hblanks : ¬ HasInk blanks) :
    shownLine (line ++ blanks) = shownLine line := by
  rw [shownLine_eq_trim, shownLine_eq_trim, untabbed_append, trim,
    trimLeft_append_of_hasInk (hasInk_untabbed.mpr hline),
    trimRight_append_of_not_hasInk (mt hasInk_untabbed.mp hblanks), trim]

/-- Blanks behind a line that has ink do not move the caret. -/
theorem indentation_append_blanks (hline : HasInk line) (blanks : List Char) :
    indentation (line ++ blanks) = indentation line := by
  rw [indentation, indentation, untabbed_append,
    trimLeft_append_of_hasInk (hasInk_untabbed.mpr hline), List.length_append, List.length_append,
    untabbed, untabbed, List.length_map, Nat.add_sub_add_right]

end Diagnostic

/-! ### Every token -/

/-- The parts of a report, by the trim of the line and the blanks in front of it. -/
theorem Token.report_eq_trim (token : Token) (detail : String) :
    token.report detail = "  File \"" ++ token.filename ++ "\", line " ++
      Text.integer (token.start.line + 1) ++ "\n" ++
      "    " ++ String.ofList (Text.trim (Diagnostic.untabbed token.lineText.toList)) ++ "\n" ++
      "    " ++ String.ofList (List.replicate
        (token.start.column - (token.lineText.toList.takeWhile isBlank).length).toNat ' ') ++
      "^\n" ++ detail := by
  have hcaret : Diagnostic.caretColumn token.lineText.toList token.start.column =
      (token.start.column - (token.lineText.toList.takeWhile isBlank).length).toNat := by
    rw [Diagnostic.caretColumn, Diagnostic.indentation_eq]
  rw [← Diagnostic.shownLine_eq_trim, ← hcaret]
  unfold report
  with_reducible rfl

/-- There is a report where nothing is too much for one. -/
theorem Token.report?_eq_some_iff {token : Token} {detail report : String} :
    token.report? detail = some report ↔
      token.excess? = none ∧ token.report detail = report := by
  rw [report?, Option.ite_none_right_eq_some, Option.some.injEq]

/-- Blanks behind the line of a token, if that has ink, do not change the report on it. -/
theorem Token.report?_append_blanks {token : Token} {blanks : String}
    (hline : HasInk token.lineText.toList) (hblanks : ¬ HasInk blanks.toList) (detail : String) :
    { token with lineText := token.lineText ++ blanks }.report? detail = token.report? detail := by
  have hshown := Diagnostic.shownLine_append_blanks hline hblanks
  have hcaret := Diagnostic.indentation_append_blanks hline blanks.toList
  have hreport : { token with lineText := token.lineText ++ blanks }.report detail =
      token.report detail := by
    unfold report
    dsimp only
    rw [String.toList_append, Diagnostic.caretColumn, Diagnostic.caretColumn, hshown, hcaret]
  have hexcess : { token with lineText := token.lineText ++ blanks }.excess? = token.excess? := by
    unfold excess?
    dsimp only
    rw [String.toList_append, Diagnostic.caretColumn, Diagnostic.caretColumn, hcaret]
  rw [report?, report?, hexcess, hreport]

/-- **A report shows every token as it should.**  It has the file and the line number of the token,
its line trimmed, a caret moved left by the blanks that are trimmed in front, and the detail; and
there is no report where the caret stands behind more spaces than a text can have, or the line
number has too many digits.  The caret is under the character at the column of the token, if that is
no blank.  Blanks behind a line that is not all blank change nothing.  Without line feeds in its
parts a report has four lines. -/
theorem Token.report?_shows (token : Token) (detail : String) :
    let text := token.lineText.toList
    let shown := Text.trim (Diagnostic.untabbed text)
    let caret := (token.start.column - (text.takeWhile isBlank).length).toNat
    token.report? detail =
        (if caret ≤ Diagnostic.spaceLimit ∧ Text.isWritable (token.start.line + 1) = true then
          some ("  File \"" ++ token.filename ++ "\", line " ++
            Text.integer (token.start.line + 1) ++ "\n" ++
            "    " ++ String.ofList shown ++ "\n" ++
            "    " ++ String.ofList (List.replicate caret ' ') ++ "^\n" ++ detail)
        else none) ∧
      Text.IsTrim (Diagnostic.untabbed text) shown ∧
      (∀ (column : Nat) (c : Char), token.start.column = column → text[column]? = some c →
        isBlank c = false → shown[caret]? = some c) ∧
      (HasInk text → ∀ blanks : String, ¬ HasInk blanks.toList →
        { token with lineText := token.lineText ++ blanks }.report? detail =
          token.report? detail) ∧
      ('\n' ∉ token.filename.toList → '\n' ∉ shown → '\n' ∉ detail.toList →
        ∀ report, token.report? detail = some report →
          (Text.lines report.toList).length = 4) := by
  intro text shown caret
  have hshown : Diagnostic.shownLine text = shown := Diagnostic.shownLine_eq_trim text
  have hcaret : Diagnostic.caretColumn text token.start.column = caret := by
    rw [Diagnostic.caretColumn, Diagnostic.indentation_eq]
  refine ⟨?_, Text.isTrim_trim _, ?_, ?_, ?_⟩
  · have hexcess : token.excess? = none ↔ caret ≤ Diagnostic.spaceLimit ∧
        Text.isWritable (token.start.line + 1) = true := by
      rw [← hcaret]
      exact excess?_eq_none_iff
    rw [report?, report_eq_trim]
    exact if_congr hexcess rfl rfl
  · intro column c hcolumn hc hink
    rw [← hshown, ← hcaret, hcolumn]
    exact Diagnostic.getElem?_shownLine_caretColumn hc hink
  · intro hline blanks hblanks
    exact report?_append_blanks hline hblanks detail
  · intro hfilename hfeed hdetail report hreport
    obtain ⟨-, rfl⟩ := report?_eq_some_iff.mp hreport
    rw [lines_report hfilename (by rwa [hshown]) hdetail]
    rfl

/-- A number of one digit can be reported. -/
theorem Text.isWritable_of_digit {n : Int} (h : n.natAbs < 10) : isWritable n = true := by
  rw [isWritable_iff, decimalDigits, if_pos h, List.length_singleton, digitLimit]
  decide

/-- On a line that a tab indents, with a line ending behind it. -/
theorem Token.report?_shows_tab :
    (Token.mark "input" "\tif x\r\n" ⟨4, 0, 4⟩).report? "why" =
        some "  File \"input\", line 1\n    if x\n       ^\nwhy" ∧
      (Text.trim (Diagnostic.untabbed "\tif x\r\n".toList))[3]? = some 'x' ∧
      (Token.mark "input" "\tif x\r\n" ⟨4, 0, 4⟩).report? "why" =
        (Token.mark "input" "\tif x" ⟨4, 0, 4⟩).report? "why" := by
  have hwritable : Text.isWritable 1 = true := Text.isWritable_of_digit (by decide)
  obtain ⟨hreport, -, hcaret, -⟩ :=
    Token.report?_shows (.mark "input" "\tif x\r\n" ⟨4, 0, 4⟩) "why"
  obtain ⟨-, -, -, hblanks, -⟩ :=
    Token.report?_shows (.mark "input" "\tif x" ⟨4, 0, 4⟩) "why"
  refine ⟨?_, hcaret 4 'x' rfl (by decide) (by decide), ?_⟩
  · refine hreport.trans ((if_pos ⟨by decide, hwritable⟩).trans ?_)
    decide +kernel
  · exact hblanks (by decide) "\r\n" (by decide)

/-- The least number with more digits than the limit. -/
theorem Text.not_isWritable_pow : ¬ isWritable (10 ^ digitLimit) := by
  unfold isWritable
  generalize digitLimit = limit
  rw [decide_eq_true_eq, Int.natAbs_pow]
  exact Nat.lt_irrefl _

/-- A report counts lines from one. -/
theorem Text.isWritable_pow_sub_one : isWritable (10 ^ digitLimit - 1 + 1) = false := by
  rw [Int.sub_add_cancel]
  exact Bool.eq_false_iff.mpr not_isWritable_pow

/-- There is no report on a line whose number has one digit more than the limit. -/
theorem Token.not_report?_long_line :
    ¬ ∃ report, (Token.mark "input" "x" ⟨0, 10 ^ Text.digitLimit - 1, 0⟩).report? "" =
      some report := by
  rintro ⟨report, hreport⟩
  obtain ⟨hexcess, -⟩ := report?_eq_some_iff.mp hreport
  obtain ⟨-, hwritable⟩ := excess?_eq_none_iff.mp hexcess
  exact Bool.false_ne_true (Text.isWritable_pow_sub_one.symm.trans hwritable)

end Lexis
