import Lexis.Proofs.Diagnostic.Report
import Lexis.Proofs.Scan.Faults

/-!
# Scan — the caret

The report on the fault of a scan has four lines, whatever the source is: the third is a caret
behind spaces.  **The caret stands under the character of the fault when the trims of the shown line
leave that character** (`report_marks_iff`): there is a character that is not blank at it or before
it on its line, and one at it or behind it.  So it does for every character that is not blank
itself.
-/

namespace Lexis

open Text (HasInk)

/-- Of the four lines of a report the third is a caret behind spaces, and the second has a character
over the caret. -/
def Marks (report : String) (c : Char) : Prop :=
  ∃ header shown message n,
    Text.lines report.toList = [header, shown, List.replicate (4 + n) ' ' ++ ['^'], message] ∧
      shown[4 + n]? = some c

theorem Fault.feed_not_mem_message {fault : Fault} (h : '\n' ∉ fault.detail.toList) :
    '\n' ∉ fault.message.toList := by
  have hlabel : '\n' ∉ fault.kind.label.toList := by cases fault.kind <;> decide
  rw [message]
  split
  · exact hlabel
  · simp [hlabel, h]

namespace FaultSite

variable {source filename : String} {line : Int} {site : FaultSite} {fault : Fault}

theorem feed_not_mem_detail (site : FaultSite) : '\n' ∉ site.detail.toList := by
  cases site with
  | unclosed q =>
      have hdetail : '\n' ∉ "unterminated string literal".toList := by decide
      exact hdetail
  | misplaced k word c =>
      have hwhat : '\n' ∉ word.what.toList := by cases word <;> decide
      simp [detail, Text.feed_not_mem_quoted, hwhat]
  | illegal k c => exact Text.feed_not_mem_quoted _

/-- **The anchor of a fault** is an end mark at the place of its site, with the line there. -/
theorem Holds.anchor_eq (hsite : site.Holds source filename line)
    (hfault : (scan source filename line).fault? = some fault) :
    fault.anchor = .mark filename
      (String.ofList (Text.lastLine (source.toList.take site.place) ++
        Text.firstLine (source.toList.drop site.place)))
      (.behind line (source.toList.take site.place)) := by
  obtain ⟨fault', hfault', hreports⟩ := hsite.reports
  obtain rfl : fault = fault' := Option.some.inj (hfault.symm.trans hfault')
  rcases scan_cases source with ⟨xs, hreads⟩ | ⟨xs, rest, n, kind, detail, hreads, hstops⟩
  · simp [scan_of_reads hreads] at hfault
  · rw [scan_of_stops hreads hstops] at hfault
    obtain rfl := Option.some.inj hfault
    have hsource : source.toList = Lexeme.texts xs ++ rest.take n ++ rest.drop n := by
      rw [hreads.text_eq, List.append_assoc, List.take_append_drop]
    generalize Lexeme.texts xs ++ rest.take n = before at hsource hreports ⊢
    -- the anchor and the site are at one offset of the source
    have hoffset := hreports.offsetIn_eq hsite
    rw [Fault.position, stopFault_anchor, hsource] at hoffset
    have hplace : site.place = before.length := by
      have := (Position.offsetIn_behind line before (rest.drop n)).symm.trans hoffset
      omega
    rw [stopFault_anchor, hplace, hsource, List.take_left, List.drop_left]

/-- **The four lines of the report** on a fault. -/
theorem Holds.lines_report (hsite : site.Holds source filename line)
    (hfault : (scan source filename line).fault? = some fault)
    (hfilename : '\n' ∉ filename.toList) :
    Text.lines fault.report.toList =
      [fault.anchor.reportHeader.toList,
       List.replicate 4 ' ' ++ Diagnostic.shownLine fault.anchor.lineText.toList,
       List.replicate
        (4 + Diagnostic.caretColumn fault.anchor.lineText.toList fault.position.column) ' ' ++
        ['^'],
       fault.message.toList] := by
  obtain ⟨fault', hfault', hreports⟩ := hsite.reports
  obtain rfl : fault = fault' := Option.some.inj (hfault.symm.trans hfault')
  have hanchor := hsite.anchor_eq hfault
  have hdetail : '\n' ∉ fault.detail.toList := hreports.detail ▸ site.feed_not_mem_detail
  have hline : '\n' ∉ fault.anchor.lineText.toList := by
    have hcut := Text.getElem?_lines (source.toList.take site.place)
      (source.toList.drop site.place)
    rw [hanchor, Token.mark, String.toList_ofList]
    exact Text.separator_not_mem_fields (List.mem_of_getElem? hcut)
  exact Token.lines_report (by rw [hanchor]; exact hfilename)
    (Diagnostic.feed_not_mem_shownLine hline) (Fault.feed_not_mem_message hdetail)

/-- **The caret is under the character of the fault** when neither trim takes it. -/
theorem Holds.marks_iff (hsite : site.Holds source filename line)
    (hfault : (scan source filename line).fault? = some fault)
    (hfilename : '\n' ∉ filename.toList) :
    Marks fault.report site.char ↔
      HasInk (Text.lastLine (source.toList.take site.place) ++ [site.char]) ∧
        HasInk (Text.firstLine (source.toList.drop site.place)) := by
  have hlines := hsite.lines_report hfault hfilename
  have htab : site.char ≠ '\t' := ne_of_isSpace hsite.isSpace_char (by decide)
  rw [Fault.position, hsite.anchor_eq hfault, hsite.firstLine_drop_place] at hlines
  simp only [Token.mark, String.toList_ofList, Position.behind_column] at hlines
  rw [hsite.firstLine_drop_place, ← Diagnostic.getElem?_shownLine_iff htab]
  generalize Diagnostic.shownLine _ = shown at hlines ⊢
  generalize Diagnostic.caretColumn _ _ = caret at hlines ⊢
  have hindex : (List.replicate 4 ' ' ++ shown)[4 + caret]? = shown[caret]? := by
    rw [List.getElem?_append_right (by simp)]
    simp
  constructor
  · rintro ⟨header, shown', message, n, hlines', hchar⟩
    rw [hlines] at hlines'
    simp only [List.cons.injEq, List.append_cancel_right_eq, List.replicate_inj] at hlines'
    obtain ⟨-, rfl, ⟨hcaret, -⟩, -⟩ := hlines'
    obtain rfl : caret = n := by omega
    exact hindex.symm.trans hchar
  · intro hchar
    exact ⟨_, _, _, caret, hlines, hindex.trans hchar⟩

end FaultSite

/-- **The caret marks the fault.**  The report on the fault of a scan has four lines, of which the
third is a caret behind spaces and the last is the message.  The caret is under the character of the
fault, as the second line shows it, exactly when that line has ink at it or before it and ink at it
or behind it; so it is when the character is not blank. -/
theorem report_marks_iff {source filename : String} {line : Int} {fault : Fault}
    (hfilename : '\n' ∉ filename.toList)
    (hfault : (scan source filename line).fault? = some fault) :
    ∃ site : FaultSite, site.Holds source filename line ∧
      site.Reports source filename line fault ∧
      source.toList[site.place]? = some site.char ∧
      (∃ header shown n, Text.lines fault.report.toList =
        [header, shown, List.replicate (4 + n) ' ' ++ ['^'], fault.message.toList]) ∧
      (Marks fault.report site.char ↔
        HasInk (Text.lastLine (source.toList.take site.place) ++ [site.char]) ∧
          HasInk (Text.firstLine (source.toList.drop site.place))) ∧
      (Text.isBlank site.char = false → Marks fault.report site.char) := by
  obtain ⟨site, hsite, hreports⟩ := FaultSite.exists_reports hfault
  have hmarks := hsite.marks_iff hfault hfilename
  refine ⟨site, hsite, hreports, hsite.getElem?_place, ?_, hmarks, fun hink => ?_⟩
  · exact ⟨_, _, _, hsite.lines_report hfault hfilename⟩
  · rw [hmarks, hsite.firstLine_drop_place]
    exact ⟨⟨_, by simp, hink⟩, ⟨_, List.mem_cons_self, hink⟩⟩

/-- The caret is under a character behind a tab and a name. -/
theorem report_marks_iff_tab :
    ∃ fault, '\n' ∉ "input".toList ∧ (scan "\tf @ " "input" 0).fault? = some fault ∧
      Text.lines fault.report.toList =
        ["  File \"input\", line 1".toList, "    f @".toList, "      ^".toList,
          "IllegalCharacter: '@'".toList] ∧
      Marks fault.report '@' := by
  have hsite : (FaultSite.illegal 3 '@').Holds "\tf @ " "input" 0 :=
    ⟨tokenizes_iff_fault?_eq_none.mpr (by decide +kernel), by decide, illegal_iff.mpr (by decide)⟩
  have hlines : (scan "\tf @ " "input" 0).fault?.map (fun fault => Text.lines fault.report.toList) =
      some ["  File \"input\", line 1".toList, "    f @".toList, "      ^".toList,
        "IllegalCharacter: '@'".toList] := by
    decide +kernel
  obtain ⟨fault, hfault, -⟩ := hsite.reports
  obtain ⟨site, hsite', -, -, -, -, hmarks⟩ := report_marks_iff (by decide) hfault
  obtain rfl : site = _ := hsite.unique hsite'
  rw [hfault] at hlines
  exact ⟨fault, by decide, hfault, Option.some.inj hlines, hmarks (by decide)⟩

/-- A form feed is blank, and no part of the language: alone on its line it is not shown. -/
theorem not_marks_form_feed :
    ∃ fault, (scan "\x0c" "input" 0).fault? = some fault ∧
      (FaultSite.illegal 0 '\x0c').Holds "\x0c" "input" 0 ∧
      fault.report = "  File \"input\", line 1\n    \n    ^\nIllegalCharacter: '\\x0c'" ∧
      ¬ Marks fault.report '\x0c' := by
  have hsite : (FaultSite.illegal 0 '\x0c').Holds "\x0c" "input" 0 :=
    ⟨tokenizes_iff_fault?_eq_none.mpr (by decide +kernel), by decide, illegal_iff.mpr (by decide)⟩
  obtain ⟨fault, hfault, -⟩ := hsite.reports
  refine ⟨fault, hfault, hsite, ?_, fun hmarks => ?_⟩
  · have hreport : (scan "\x0c" "input" 0).fault?.map Fault.report =
        some "  File \"input\", line 1\n    \n    ^\nIllegalCharacter: '\\x0c'" := by
      decide +kernel
    rw [hfault] at hreport
    exact Option.some.inj hreport
  · have hink := ((hsite.marks_iff hfault (by decide)).mp hmarks).2
    have hline : Text.firstLine ("\x0c".toList.drop 0) = ['\x0c'] := by decide +kernel
    rw [FaultSite.place, hline, Text.hasInk_singleton] at hink
    exact absurd hink (by decide)

end Lexis
