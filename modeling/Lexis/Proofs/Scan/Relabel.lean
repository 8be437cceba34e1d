import Lexis.Proofs.Diagnostic.Report
import Lexis.Proofs.Dump.Rows

/-!
# Scan — another name and another first line

The name of a file and the number of its first line are labels.  A scan puts the name on every token
and counts every line from that number, and it looks at neither: **a scan under other labels is the
scan relabelled** (`scan_relabel`), whether it succeeds or fails.  So the reports on its fault have
the same three lines under their headers, and the rows of its dump have the same columns, kinds and
values.
-/

namespace Lexis

/-! ### Labels -/

/-- The place as far along a line that is so many lines further down. -/
def Position.shiftLine (p : Position) (k : Int) : Position :=
  { p with line := p.line + k }

/-- A token of another file, with its lines counted from another number. -/
def Token.relabel (filename : String) (k : Int) (t : Token) : Token :=
  { t with filename, start := t.start.shiftLine k, stop := t.stop.shiftLine k }

/-- A fault anchored at the token relabelled. -/
def Fault.relabel (filename : String) (k : Int) (fault : Fault) : Fault :=
  { fault with anchor := fault.anchor.relabel filename k }

/-- A scan with all of its tokens and its fault relabelled. -/
def Scan.relabel (filename : String) (k : Int) (scan : Scan) : Scan :=
  ⟨scan.tokens.map (Token.relabel filename k), scan.fault?.map (Fault.relabel filename k)⟩

/-! ### A scan under other labels -/

section

variable (f g : String) (n m : Int)

theorem Position.behind_shiftLine (before : List Char) :
    behind m before = (behind n before).shiftLine (m - n) := by
  simp only [behind, shiftLine, Position.mk.injEq, true_and, and_true]
  omega

theorem Token.mark_relabel (lineText : String) (before : List Char) :
    mark g lineText (.behind m before) =
      (mark f lineText (.behind n before)).relabel g (m - n) := by
  rw [mark, Position.behind_shiftLine n m]
  rfl

theorem Token.fault_relabel (t : Token) (k : Int) (kind : FaultKind) (detail : String) :
    (t.relabel g k).fault kind detail = (t.fault kind detail).relabel g k := by
  cases kind <;> rfl

theorem Lexeme.token?_relabel (before after : List Char) (x : Lexeme) :
    x.token? g m before after = (x.token? f n before after).map (Token.relabel g (m - n)) := by
  rw [token?, token?, Option.map_map, Position.behind_shiftLine n m before,
    Position.behind_shiftLine n m (before ++ x.text)]
  rfl

/-- The tokens of lexemes, one by one. -/
theorem Lexeme.tokens_relabel (before : List Char) (xs : List Lexeme) (after : List Char) :
    tokens g m before xs after =
      (tokens f n before xs after).map (Token.relabel g (m - n)) := by
  induction xs generalizing before with
  | nil => rfl
  | cons x xs ih =>
      rw [tokens, tokens, token?_relabel f g n m, ih, List.map_append, Option.toList_map]

theorem closingMark_relabel (source : List Char) (tokens : List Token) :
    closingMark g m source (tokens.map (Token.relabel g (m - n))) =
      (closingMark f n source tokens).relabel g (m - n) := by
  -- without a token the mark is behind the source, else behind the last token
  rcases List.eq_nil_or_concat' tokens with rfl | ⟨tokens, last, rfl⟩
  · exact Token.mark_relabel f g n m _ source
  · simp only [closingMark, List.map_append, List.map_singleton, List.getLast?_concat]
    rfl

theorem stopFault_relabel (before after : List Char) (kind : FaultKind) (detail : String) :
    stopFault g m before after kind detail =
      (stopFault f n before after kind detail).relabel g (m - n) := by
  rw [stopFault, stopFault, Cursor.fault, Cursor.fault, Cursor.faultAt, Cursor.faultAt,
    Cursor.between_filename, Cursor.between_filename, Cursor.between_lineText,
    Cursor.between_lineText, Cursor.between_position, Cursor.between_position,
    Token.mark_relabel f g n m, Token.fault_relabel]

/-- **A scan under other labels is the scan relabelled.** -/
theorem scan_eq_relabel (source : String) :
    scan source g m = (scan source f n).relabel g (m - n) := by
  rcases scan_cases source with ⟨xs, hreads⟩ | ⟨xs, rest, k, kind, detail, hreads, hstops⟩
  · rw [scan_of_reads hreads, scan_of_reads hreads, Scan.relabel, List.map_append,
      Lexeme.tokens_relabel f g n m, closingMark_relabel]
    rfl
  · rw [scan_of_stops hreads hstops, scan_of_stops hreads hstops, Scan.relabel, List.map_append,
      Lexeme.tokens_relabel f g n m, stopFault_relabel f g n m]
    rfl

end

/-! ### Reports and rows -/

/-- The row with so much added to both of its lines. -/
def Row.addLines (k : Int) (row : Row) : Row :=
  { row with startLine := row.startLine + k, stopLine := row.stopLine + k }

theorem Token.row_relabel (filename : String) (k : Int) (t : Token) :
    (t.relabel filename k).row = t.row.addLines k := by
  simp only [row, relabel, Position.shiftLine, Row.addLines, Int.add_right_comm _ k 1]
  rfl

/-- The report on a token relabelled has another header and the same body. -/
theorem Token.report?_relabel (filename : String) (k : Int) (t : Token) (detail : String) :
    (t.relabel filename k).report? detail =
      if Diagnostic.caretColumn t.lineText.toList t.start.column ≤ Diagnostic.spaceLimit ∧
          Text.isWritable (t.start.line + k + 1) = true then
        some ("  File \"" ++ filename ++ "\", line " ++ Text.integer (t.start.line + k + 1) ++
          "\n" ++ t.reportBody detail)
      else none := by
  rw [report?, report_eq]
  exact if_congr excess?_eq_none_iff rfl rfl

/-- A scan under other labels answers unless its fault cannot be reported under them. -/
theorem answer?_relabel (source f g : String) (n m : Int) :
    (scan source g m).answer? =
      if (scan source f n).fault?.all fun fault => (fault.relabel g (m - n)).canReport then
        some ((scan source f n).relabel g (m - n))
      else none := by
  have hcan : (scan source g m).fault?.all Fault.canReport =
      (scan source f n).fault?.all fun fault => (fault.relabel g (m - n)).canReport := by
    rw [scan_eq_relabel f g n m, Scan.relabel, Option.all_map]
  rw [Scan.answer?, hcan, scan_eq_relabel f g n m]

/-- A report on the fault of a scan has the name of the file that is scanned. -/
theorem relabel_fault_self {source f : String} {n : Int} {fault : Fault}
    (h : (scan source f n).fault? = some fault) : fault.relabel f 0 = fault := by
  have hself := congrArg Scan.fault? (scan_eq_relabel f f n n source)
  rw [Int.sub_self, Scan.relabel, h, Option.map_some, Option.some.injEq] at hself
  exact hself.symm

/-- The tokens of a source under other labels. -/
theorem tokenize_relabel {source f : String} {n : Int} {tokens : List Token}
    (h : tokenize source f n = .ok tokens) (g : String) (m : Int) :
    tokenize source g m = .ok (tokens.map (Token.relabel g (m - n))) := by
  rw [tokenize_eq_ok_iff] at h ⊢
  rw [scan_eq_relabel f g n m, h]
  rfl

/-- **Names and first lines are labels.**  A scan under other labels is the scan relabelled, and it
answers unless it has a fault that cannot be reported under them.  The reports on a fault have the
file and the number of the line in their headers, and the same body; there is one where the caret is
not too far to the right and the number of the line has few enough digits.
Where there is no fault, the dump as text from another start line has the rows of the dump from the
first line, with so much added to every line. -/
theorem scan_relabel (source f g : String) (n m : Int) :
    scan source g m = (scan source f n).relabel g (m - n) ∧
      (scan source g m).answer? =
        (if (scan source f n).fault?.all fun fault => (fault.relabel g (m - n)).canReport then
          some ((scan source f n).relabel g (m - n))
        else none) ∧
      (∀ fault, (scan source f n).fault? = some fault → ∃ body,
        let report (filename : String) (line : Int) :=
          if Diagnostic.caretColumn fault.anchor.lineText.toList fault.position.column ≤
              Diagnostic.spaceLimit ∧ Text.isWritable line = true then
            some ("  File \"" ++ filename ++ "\", line " ++ Text.integer line ++ "\n" ++ body)
          else none
        fault.anchor.report? fault.message = report f (fault.position.line + 1) ∧
          (fault.relabel g (m - n)).anchor.report? fault.message =
            report g (fault.position.line + (m - n) + 1)) ∧
      ∀ entry, sourceText entry = .ok source → (scan source f n).fault? = none → ∃ rows,
        (∀ dump, dumpSource entry f 1 .text = .ok dump ↔ Row.write? rows = some dump) ∧
          ∀ startLine dump, dumpSource entry f startLine .text = .ok dump ↔
            Row.write? (rows.map (Row.addLines (startLine - 1))) = some dump := by
  refine ⟨scan_eq_relabel f g n m source, answer?_relabel source f g n m, fun fault hfault => ?_,
    fun entry hsource hnone => ?_⟩
  · refine ⟨fault.anchor.reportBody fault.message, ?_,
      Token.report?_relabel g (m - n) fault.anchor fault.message⟩
    have hself := congrArg Fault.anchor (relabel_fault_self hfault)
    have hreport := Token.report?_relabel f 0 fault.anchor fault.message
    rwa [Int.add_zero, show fault.anchor.relabel f 0 = fault.anchor from hself] at hreport
  · have htokens : tokenize source f n = .ok (scan source f n).tokens :=
      tokenize_eq_ok_iff.mpr (by rw [← hnone])
    -- the dumps from all start lines are compared with the one from the first
    obtain ⟨tokens, hfirst⟩ : ∃ tokens, tokenize source f 0 = .ok tokens :=
      ⟨_, tokenize_relabel htokens f 0⟩
    refine ⟨tokens.map Token.row, fun dump => ?_, fun startLine dump => ?_⟩
    · rw [dumpSource_eq_ok_iff hsource, Int.sub_self, hfirst]
      simp only [Except.ok.injEq, exists_eq_left', Format.write?_text_eq]
    · rw [dumpSource_eq_ok_iff hsource, tokenize_relabel hfirst f (startLine - 1), Int.sub_zero]
      simp only [Except.ok.injEq, exists_eq_left', Format.write?_text_eq, List.map_map,
        Function.comp_def, Token.row_relabel]

/-- A report on a line above the first, and a dump from a line far below. -/
theorem scan_relabel_call :
    (∃ fault body, (scan "f(\n1x" "a" (-3)).fault? = some fault ∧
      fault.anchor.report? fault.message = some ("  File \"a\", line -1\n" ++ body) ∧
      (fault.relabel "b" 43).anchor.report? fault.message =
        some ("  File \"b\", line 42\n" ++ body)) ∧
      ∃ rows, Row.write? rows = some "1:1-1:2  IDENTIFIER 'f'\n1:2-1:2  EOF\n" ∧
        Row.write? (rows.map (Row.addLines 99)) =
          some "100:1-100:2  IDENTIFIER 'f'\n100:2-100:2  EOF\n" := by
  constructor
  · obtain ⟨fault, hfault, hline, hcaret⟩ : ∃ fault, (scan "f(\n1x" "a" (-3)).fault? = some fault ∧
        fault.position.line = -2 ∧ Diagnostic.caretColumn fault.anchor.lineText.toList
          fault.position.column ≤ Diagnostic.spaceLimit := by
      refine ⟨(Token.mark "a" "1x" ⟨1, -2, 1⟩).invalidSyntax
        "unexpected 'x' after integer literal", ?_, rfl, ?_⟩ <;> decide +kernel
    obtain ⟨-, -, hreports, -⟩ := scan_relabel "f(\n1x" "a" "b" (-3) 40
    obtain ⟨body, hbefore, hbehind⟩ := hreports fault hfault
    rw [hline] at hbefore hbehind
    have hheader : "  File \"" ++ "a" ++ "\", line " ++ Text.integer (-2 + 1) ++ "\n" =
        "  File \"a\", line -1\n" := by decide +kernel
    have hheader' : "  File \"" ++ "b" ++ "\", line " ++ Text.integer (-2 + (40 - -3) + 1) ++ "\n" =
        "  File \"b\", line 42\n" := by decide +kernel
    refine ⟨fault, body, hfault, ?_, ?_⟩
    · rw [← hheader]
      exact hbefore.trans (if_pos ⟨hcaret, by decide +kernel⟩)
    · rw [← hheader']
      exact hbehind.trans (if_pos ⟨hcaret, by decide +kernel⟩)
  · have hentry : sourceText (.file (Text.Utf8.encode "f".toList)) = .ok "f" := by decide +kernel
    obtain ⟨-, -, -, hdumps⟩ := scan_relabel "f" "a" "a" 0 0
    obtain ⟨rows, hrows, hlater⟩ := hdumps (.file (Text.Utf8.encode "f".toList)) hentry
      (by decide +kernel)
    exact ⟨rows, (hrows _).mp (by decide +kernel), (hlater 100 _).mp (by decide +kernel)⟩

/-- A scan does not answer where its fault is on a line whose number has one digit more than the
limit, although it does on the first line. -/
theorem not_answer?_long_line :
    (scan "@" "input" 0).answer? ≠ none ∧
      (scan "@" "input" (10 ^ Text.digitLimit - 1)).answer? = none := by
  have hfault : (scan "@" "input" 0).fault? =
      some (Token.mark "input" "@" ⟨0, 0, 0⟩).illegalCharacter := by
    decide +kernel
  constructor
  · have hcan : ((Token.mark "input" "@" ⟨0, 0, 0⟩).illegalCharacter.relabel "input"
        (0 - 0)).canReport = true :=
      Fault.canReport_iff.mpr
        (Token.excess?_eq_none_iff.mpr ⟨by decide, Text.isWritable_of_digit (by decide)⟩)
    rw [answer?_relabel "@" "input" "input" 0 0, hfault, Option.all_some, if_pos hcan]
    exact Option.some_ne_none _
  · have hlong := Text.isWritable_pow_sub_one
    generalize (10 ^ Text.digitLimit - 1 : Int) = n at hlong ⊢
    have hcan : ((Token.mark "input" "@" ⟨0, 0, 0⟩).illegalCharacter.relabel "input"
        (n - 0)).canReport = false := by
      have hline : 0 + (n - 0) + 1 = n + 1 := by omega
      exact Fault.canReport_eq_false ((congrArg Text.isWritable hline).trans hlong)
    rw [answer?_relabel "@" "input" "input" 0, hfault, Option.all_some, hcan,
      if_neg Bool.false_ne_true]

end Lexis
