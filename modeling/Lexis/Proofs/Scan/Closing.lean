import Lexis.Proofs.Diagnostic.Rendering
import Lexis.Proofs.Scan.Spans

/-!
# Scan — the closing mark

A scan answers with tokens and one end-of-file token behind them, however it ends (`scan_closes`).
Where it succeeds, that mark is at the end of the last token and keeps its line, or at the end of
the text where there is no token (`Token.Closes`).  Where it fails, the mark is the anchor of the
fault, and no token goes beyond it.

So the mark of a scan that succeeds names the line that the last token ends on, and shows the line
that it starts on.  **The mark shows the line it names exactly when the two have the same text**
(`shows_closing_line_iff`).  They are one line for every token but a literal of several lines.
-/

namespace Lexis

/-! ### The order of positions -/

namespace Position

/-- One position is at another or before it: on a line above, or on the same line at no greater
column. -/
def AtOrBefore (p q : Position) : Prop :=
  p.line < q.line ∨ p.line = q.line ∧ p.column ≤ q.column

theorem AtOrBefore.refl (p : Position) : p.AtOrBefore p :=
  .inr ⟨rfl, Int.le_refl _⟩

theorem AtOrBefore.trans {p q r : Position} (h : p.AtOrBefore q) (h' : q.AtOrBefore r) :
    p.AtOrBefore r := by
  rcases h with h | ⟨hline, hcolumn⟩
  · rcases h' with h' | ⟨hline', -⟩
    · exact .inl (Int.lt_trans h h')
    · exact .inl (hline' ▸ h)
  · rcases h' with h' | ⟨hline', hcolumn'⟩
    · exact .inl (hline ▸ h')
    · exact .inr ⟨hline.trans hline', Int.le_trans hcolumn hcolumn'⟩

theorem atOrBefore_advance (p : Position) : p.AtOrBefore p.advance :=
  .inr ⟨rfl, Int.le_add_of_nonneg_right (by decide)⟩

theorem atOrBefore_nextLine (p : Position) : p.AtOrBefore p.nextLine :=
  .inl (Int.lt_add_one_of_le (Int.le_refl _))

/-- What follows in a text is not before. -/
theorem behind_atOrBefore (line : Int) (before text : List Char) :
    (behind line before).AtOrBefore (behind line (before ++ text)) := by
  induction text using List.reverseRecOn with
  | nil =>
      rw [List.append_nil]
      exact .refl _
  | append_singleton text c ih =>
      rw [← List.append_assoc]
      refine ih.trans ?_
      by_cases hc : c = '\n'
      · rw [hc, behind_append_feed]
        exact atOrBefore_nextLine _
      · rw [behind_append_singleton hc]
        exact atOrBefore_advance _

/-- The line of a text that a position is on. -/
def lineIn (text : List Char) (line : Int) (p : Position) : List Char :=
  ((Text.lines text)[(p.line - line).toNat]?).getD []

theorem lineIn_behind (line : Int) (before after : List Char) :
    (behind line before).lineIn (before ++ after) line =
      Text.lastLine before ++ Text.firstLine after := by
  rw [lineIn, toNat_behind_line_sub, Text.getElem?_lines, Option.getD_some]

theorem feed_not_mem_lineIn (text : List Char) (line : Int) (p : Position) :
    '\n' ∉ p.lineIn text line := by
  rw [lineIn]
  cases h : (Text.lines text)[(p.line - line).toNat]? with
  | none => exact List.not_mem_nil
  | some l => exact Text.separator_not_mem_fields (List.mem_of_getElem? h)

end Position

/-! ### The tokens of lexemes -/

namespace Lexeme

variable {filename : String} {line : Int} {before after : List Char} {xs : List Lexeme} {t : Token}

theorem filename_of_mem_tokens (h : t ∈ tokens filename line before xs after) :
    t.filename = filename := by
  obtain ⟨ys, x, zs, -, hx⟩ := exists_of_mem_tokens h
  exact (token?_eq_some hx).2.1

/-- No token goes beyond the lexemes. -/
theorem stop_of_mem_tokens (h : t ∈ tokens filename line before xs after) :
    t.stop.AtOrBefore (.behind line (before ++ texts xs)) := by
  obtain ⟨ys, x, zs, rfl, hx⟩ := exists_of_mem_tokens h
  obtain ⟨-, -, -, -, hstop⟩ := token?_eq_some hx
  have hsplit : before ++ texts (ys ++ x :: zs) = before ++ texts ys ++ x.text ++ texts zs := by
    simp
  rw [hstop, hsplit]
  exact Position.behind_atOrBefore _ _ _

/-- Only a literal has a line feed in it. -/
theorem feed_not_mem_text {x : Lexeme} {kind : Kind} {value : String}
    (h : x.pair? = some (kind, value)) (hkind : kind ≠ .string) : '\n' ∉ x.text := by
  match x with
  | .filler (.blank c hc) => exact nomatch h
  | .filler (.mark m) => cases m <;> decide
  | .word w =>
      obtain ⟨rfl, -⟩ := Prod.mk.inj (Option.some.inj h)
      exact w.not_mem_text_of_isSpace hkind (by decide)

/-- A token that is no literal is on one line. -/
theorem stop_line_of_mem_tokens (h : t ∈ tokens filename line before xs after)
    (hkind : t.kind ≠ .string) : t.stop.line = t.start.line := by
  obtain ⟨ys, x, zs, -, hx⟩ := exists_of_mem_tokens h
  obtain ⟨hpair, -, -, hstart, hstop⟩ := token?_eq_some hx
  rw [hstart, hstop, Position.behind_line, Position.behind_line, List.count_append,
    List.count_eq_zero.mpr (feed_not_mem_text hpair hkind), Nat.add_zero]

end Lexeme

/-! ### The mark behind the tokens -/

/-- A mark closes the tokens of a text: it is at the end of the last token and keeps the line of
that one, or it is at the end of the last line where there is no token. -/
def Token.Closes (source : List Char) (line : Int) (tokens : List Token) (mark : Token) : Prop :=
  match tokens.getLast? with
  | some t => mark.start = t.stop ∧ mark.lineText = t.lineText
  | none   =>
    ∃ l, (Text.lines source).getLast? = some l ∧ mark.lineText = String.ofList l ∧
      mark.start = ⟨l.length, line + source.count '\n', l.length⟩

theorem closes_closingMark (filename : String) (line : Int) (source : List Char)
    (tokens : List Token) :
    (closingMark filename line source tokens).Closes source line tokens := by
  cases hlast : tokens.getLast? with
  | none =>
      simp only [Token.Closes, closingMark, hlast]
      exact ⟨_, Text.getLast?_lines source, rfl, rfl⟩
  | some t =>
      simp only [Token.Closes, closingMark, hlast]
      exact ⟨rfl, rfl⟩

/-- **A scan answers with tokens and one end-of-file token behind them**, of no text and no width.
It closes the tokens of a scan that succeeds.  It is the anchor of the fault of a scan that fails,
and no token goes beyond it. -/
theorem scan_closes (source filename : String) (line : Int) :
    ∃ tokens last, (scan source filename line).tokens = tokens ++ [last] ∧
      (∀ t ∈ tokens, t.kind ≠ .eof) ∧ last.kind = .eof ∧ last.value = "" ∧
      last.filename = filename ∧ last.stop = last.start ∧
      match (scan source filename line).fault? with
      | none       => last.Closes source.toList line tokens
      | some fault =>
        last = fault.anchor ∧ last.start = fault.position ∧
          ∀ t ∈ tokens, t.stop.AtOrBefore last.start := by
  rcases scan_cases source with ⟨xs, hreads⟩ | ⟨xs, rest, n, kind, detail, hreads, hstops⟩
  · rw [scan_of_reads hreads]
    have hmark : ∃ lineText position, closingMark filename line source.toList
        (Lexeme.tokens filename line [] xs []) = .mark filename lineText position := by
      rw [closingMark]
      split
      · rename_i last hlast
        rw [Lexeme.filename_of_mem_tokens (List.mem_of_getLast? hlast)]
        exact ⟨_, _, rfl⟩
      · exact ⟨_, _, rfl⟩
    obtain ⟨lineText, position, hmark⟩ := hmark
    have hcloses := closes_closingMark filename line source.toList
      (Lexeme.tokens filename line [] xs [])
    rw [hmark] at hcloses ⊢
    exact ⟨_, _, rfl, Lexeme.kind_ne_eof_of_mem_tokens _ _ _ _ _, rfl, rfl, rfl, rfl, hcloses⟩
  · rw [scan_of_stops hreads hstops]
    refine ⟨_, _, rfl, Lexeme.kind_ne_eof_of_mem_tokens _ _ _ _ _, ?_⟩
    have hbehind : ∀ t ∈ Lexeme.tokens filename line [] xs rest,
        t.stop.AtOrBefore (.behind line (Lexeme.texts xs ++ rest.take n)) := fun t ht =>
      (Lexeme.stop_of_mem_tokens ht).trans (Position.behind_atOrBefore _ _ _)
    simp only [Fault.position, stopFault_anchor, true_and]
    exact ⟨rfl, rfl, rfl, rfl, hbehind⟩

/-! ### The line that the mark shows -/

/-- There is a report on a fault, and it shows a text, trimmed, in the line under its header. -/
def Fault.Shows (fault : Fault) (text : List Char) : Prop :=
  ∃ report below, fault.anchor.report? fault.message = some report ∧
    report.toList = fault.anchor.reportHeader.toList ++ '\n' ::
      (List.replicate 4 ' ' ++ Text.trim (Diagnostic.untabbed text) ++ '\n' :: below)

/-- A report shows the texts that are trimmed to the same as the line of its anchor. -/
theorem Fault.shows_iff {fault : Fault} {text : List Char}
    (hcan : fault.canReport = true) (htext : '\n' ∉ text)
    (hline : '\n' ∉ fault.anchor.lineText.toList) :
    fault.Shows text ↔
      Text.trim (Diagnostic.untabbed fault.anchor.lineText.toList) =
        Text.trim (Diagnostic.untabbed text) := by
  have hfeed {line : List Char} (h : '\n' ∉ line) :
      '\n' ∉ List.replicate 4 ' ' ++ Text.trim (Diagnostic.untabbed line) := by
    rw [← Diagnostic.shownLine_eq_trim]
    simp [Diagnostic.feed_not_mem_shownLine h]
  have hreport : fault.report.toList = _ := Diagnostic.toList_report fault.anchor.reportHeader
    (String.ofList (Diagnostic.shownLine fault.anchor.lineText.toList))
    (String.ofList (List.replicate (Diagnostic.caretColumn fault.anchor.lineText.toList
      fault.anchor.start.column) ' ')) fault.message
  rw [String.toList_ofList, Diagnostic.shownLine_eq_trim] at hreport
  constructor
  · rintro ⟨report, below, hsome, hshows⟩
    obtain ⟨-, rfl⟩ := Token.report?_eq_some_iff.mp hsome
    rw [← Fault.report, hreport, List.append_cancel_left_eq, List.cons.injEq] at hshows
    exact List.append_cancel_left (Text.append_feed_cons_inj (hfeed hline) (hfeed htext) hshows.2)
  · intro htrim
    rw [htrim] at hreport
    exact ⟨fault.report, _, Token.report?_eq_some_iff.mpr ⟨Fault.canReport_iff.mp hcan, rfl⟩,
      hreport⟩

section

variable {source filename : String} {line : Int} {tokens : List Token} {mark : Token}

theorem eq_of_tokenize (h : tokenize source filename line = .ok (tokens ++ [mark])) :
    ∃ xs, Reads source.toList xs [] ∧ tokens = Lexeme.tokens filename line [] xs [] ∧
      mark = closingMark filename line source.toList tokens := by
  obtain ⟨xs, hreads⟩ := tokenizes_iff.mp ⟨_, h⟩
  rw [tokenize_of_reads hreads] at h
  obtain ⟨rfl, hmark⟩ := List.append_inj' (Except.ok.inj h) rfl
  exact ⟨xs, hreads, rfl, (List.singleton_inj.mp hmark).symm⟩

/-- The last token of a text starts on the line that the closing mark shows, and stops on the line
that the mark is on.  These are one line if it is no literal. -/
theorem lineText_closing_of_some (h : tokenize source filename line = .ok (tokens ++ [mark]))
    {t : Token} (ht : tokens.getLast? = some t) :
    mark.lineText.toList = t.start.lineIn source.toList line ∧ mark.start = t.stop ∧
      t.stop.IsPlace source.toList line ∧ (t.kind ≠ .string → t.stop.line = t.start.line) := by
  obtain ⟨xs, hreads, rfl, rfl⟩ := eq_of_tokenize h
  have hmem := List.mem_of_getLast? ht
  have htiles := Lexeme.tiles_tokens filename line [] xs []
  rw [List.append_nil, List.nil_append, ← (reads_nil_iff.mp hreads).1] at htiles
  have hfits := htiles.fits t hmem
  simp only [closingMark, ht, Token.mark, true_and]
  refine ⟨?_, hfits.stop, Lexeme.stop_line_of_mem_tokens hmem⟩
  rw [Position.lineIn, hfits.lineText, Option.getD_some]

/-- Without a token the closing mark shows the line that it is on, at the end of the text. -/
theorem lineText_closing_of_none (h : tokenize source filename line = .ok (tokens ++ [mark]))
    (hnone : tokens.getLast? = none) :
    mark.lineText.toList = mark.start.lineIn source.toList line ∧
      mark.start.IsPlace source.toList line := by
  obtain ⟨xs, -, -, rfl⟩ := eq_of_tokenize h
  have hplace := Position.isPlace_behind line source.toList []
  have hline := Position.lineIn_behind line source.toList []
  rw [List.append_nil] at hplace hline
  rw [Text.firstLine_nil, List.append_nil] at hline
  simp only [closingMark, hnone, Token.mark, String.toList_ofList]
  exact ⟨hline.symm, hplace⟩

/-- **The closing mark shows the line it names exactly when** the last token starts and stops on
lines of the same text, and a report on it, where there can be one, shows that line exactly when
these two are the same when trimmed.  They are the same where the last token is no literal. -/
theorem shows_closing_line_iff (h : tokenize source filename line = .ok (tokens ++ [mark])) :
    let text := source.toList
    let named := mark.start.lineIn text line
    mark.start.IsPlace text line ∧
      (mark.lineText.toList = named ↔
        ∀ t ∈ tokens.getLast?, t.start.lineIn text line = t.stop.lineIn text line) ∧
      (∀ detail, (mark.invalidSyntax detail).canReport = true →
        ((mark.invalidSyntax detail).Shows named ↔
          ∀ t ∈ tokens.getLast?, Text.trim (Diagnostic.untabbed (t.start.lineIn text line)) =
            Text.trim (Diagnostic.untabbed (t.stop.lineIn text line)))) ∧
      (∀ t ∈ tokens.getLast?, t.kind ≠ .string →
        t.start.lineIn text line = t.stop.lineIn text line) := by
  intro text named
  have hfeed (p : Position) : '\n' ∉ p.lineIn text line := p.feed_not_mem_lineIn text line
  -- the lines that the mark shows and names, trimmed, decide what a report on it shows
  have hshows {shown : List Char} (hshown : mark.lineText.toList = shown) (hshown' : '\n' ∉ shown)
      (detail : String) (hcan : (mark.invalidSyntax detail).canReport = true) :
      (mark.invalidSyntax detail).Shows named ↔
        Text.trim (Diagnostic.untabbed shown) = Text.trim (Diagnostic.untabbed named) := by
    subst hshown
    exact Fault.shows_iff hcan (hfeed _) hshown'
  cases hlast : tokens.getLast? with
  | none =>
      obtain ⟨hshown, hplace⟩ := lineText_closing_of_none h hlast
      refine ⟨hplace, ?_, fun detail hcan => ?_, by simp⟩
      · simpa using hshown
      · exact (hshows hshown (hfeed _) detail hcan).trans (by simp [named, text])
  | some t =>
      obtain ⟨hshown, hstart, hplace, hkind⟩ := lineText_closing_of_some h hlast
      have hnamed : named = t.stop.lineIn text line := by rw [← hstart]
      refine ⟨hstart ▸ hplace, ?_, fun detail hcan => ?_, ?_⟩
      · simp [hshown, hnamed, text]
      · exact (hshows hshown (hfeed _) detail hcan).trans (by simp [hnamed, text])
      · rintro t ⟨⟩ hliteral
        rw [Position.lineIn, Position.lineIn, hkind hliteral]

end

/-- Behind a literal of two lines the closing mark is on the second and shows the first. -/
theorem shows_closing_line_iff_two_lines :
    let source := "f \"a\nb\" "
    ∃ tokens mark, tokenize source "input" 0 = .ok (tokens ++ [mark]) ∧
      mark.start = ⟨2, 1, 2⟩ ∧ mark.lineText.toList = "f \"a".toList ∧
      mark.start.lineIn source.toList 0 = "b\" ".toList ∧
      mark.lineText.toList ≠ mark.start.lineIn source.toList 0 ∧
      ∀ detail, ¬ (mark.invalidSyntax detail).Shows (mark.start.lineIn source.toList 0) := by
  intro source
  let name : Token := ⟨.identifier, "f", "input", "f \"a", ⟨0, 0, 0⟩, ⟨1, 0, 1⟩⟩
  let literal : Token := ⟨.string, "a\nb", "input", "f \"a", ⟨2, 0, 2⟩, ⟨2, 1, 2⟩⟩
  have htokens : tokenize source "input" 0 =
      .ok ([name, literal] ++ [.mark "input" "f \"a" literal.stop]) := by
    decide +kernel
  have hexcess : (Token.mark "input" "f \"a" literal.stop).excess? = none :=
    Token.excess?_eq_none_iff.mpr ⟨by decide, Text.isWritable_of_digit (by decide)⟩
  have hstart : literal.start.lineIn source.toList 0 = "f \"a".toList := by decide +kernel
  have hstop : literal.stop.lineIn source.toList 0 = "b\" ".toList := by decide +kernel
  obtain ⟨-, hline, hshows, -⟩ := shows_closing_line_iff htokens
  refine ⟨_, _, htokens, rfl, rfl, hstop, fun h => ?_, fun detail h => ?_⟩
  · have hsame := hline.mp h literal rfl
    rw [hstart, hstop] at hsame
    exact absurd hsame (by decide)
  · have hsame := (hshows detail (Fault.canReport_iff.mpr hexcess)).mp h literal rfl
    rw [hstart, hstop] at hsame
    exact absurd hsame (by decide)

/-- Where a literal of two lines is the whole source, the closing mark is on the second line and has
the first.  A report on it names the second line and shows the first. -/
theorem not_shows_closing_line :
    let source := "\"a\nb\""
    let mark := Token.mark "<input>" "\"a" ⟨2, 1, 2⟩
    let fault := mark.invalidSyntax ""
    tokenize source "<input>" 0 =
        .ok [⟨.string, "a\nb", "<input>", "\"a", ⟨0, 0, 0⟩, ⟨2, 1, 2⟩⟩, mark] ∧
      mark.start.lineIn source.toList 0 = "b\"".toList ∧
      mark.lineText.toList ≠ mark.start.lineIn source.toList 0 ∧
      mark.report? fault.message =
        some "  File \"<input>\", line 2\n    \"a\n      ^\nInvalidSyntax" ∧
      ¬ fault.Shows (mark.start.lineIn source.toList 0) := by
  intro source mark fault
  have hexcess : mark.excess? = none :=
    Token.excess?_eq_none_iff.mpr ⟨by decide, Text.isWritable_of_digit (by decide)⟩
  have hnamed : mark.start.lineIn source.toList 0 = "b\"".toList := by decide +kernel
  refine ⟨by decide +kernel, hnamed, ?_, ?_, fun hshows => ?_⟩
  · rw [hnamed]
    decide
  · rw [Token.report?, if_pos hexcess]
    decide +kernel
  · have hcan : fault.canReport = true := Fault.canReport_iff.mpr hexcess
    rw [hnamed, Fault.shows_iff hcan (by decide) (by decide)] at hshows
    exact absurd hshows (by decide)

end Lexis
