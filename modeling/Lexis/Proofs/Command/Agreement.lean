import Lexis.Proofs.Command.Single
import Lexis.Proofs.Scan.Caret
import Lexis.Proofs.Scan.Newlines
import Lexis.Proofs.Workspace.Remarks

/-!
# Command — agreement with a workspace

A text may be scanned as an open document of a workspace, or as a file that the command is run on.
The command reads the file with its line ends made line feeds and reports the fault in four lines; a
workspace scans the document as it stands and remarks on the fault.

**The two agree** (`run_agrees_with_workspace`): on whether there is a fault and on its message, and
on its line where no carriage return stands alone.  The command fails before it reads the file when
the path of the configuration beside it is too long to be looked at, and there are files for which
it is (`not_agrees_of_detour`).
-/

namespace Lexis

open Text (PairsCarriages)

/-- A run on a file and the remarks on a document of the same text say the same: the code tells
whether there is a remark, and the last line printed on a fault is its message. -/
structure Report.Agrees (report : Report) (filename : String) (text : List Char)
    (remarks : List Remark) : Prop where
  fails    : report.code = 1 ↔ ∃ remark, remarks = [remark]
  succeeds : report.code = 0 ↔ remarks = []
  scans    : report.code ≠ 2
  message  : ∀ remark, remarks = [remark] → ∃ header shown caret,
    Text.lines report.stderr.toList = [header, shown, caret, remark.message.toList, []]
  header   : PairsCarriages text → ∀ remark, remarks = [remark] →
    (Text.lines report.stderr.toList).head? =
      some ("  File \"" ++ filename ++ "\", line " ++
        Text.integer (remark.start.line + 1)).toList

section

variable {source filename : String} {fault : Fault}

/-- What is printed of a fault: the lines of its report, and no more. -/
theorem lines_failure (hfault : (scan source filename 0).fault? = some fault)
    (hfilename : '\n' ∉ filename.toList) :
    ∃ shown caret, Text.lines (Report.failure 1 fault.report).stderr.toList =
      [("  File \"" ++ filename ++ "\", line " ++
        Text.integer (fault.position.line + 1)).toList, shown, caret, fault.message.toList,
        []] := by
  obtain ⟨site, hsite, -⟩ := FaultSite.exists_reports hfault
  have hlines := hsite.lines_report hfault hfilename
  have hname : fault.anchor.filename = filename := by
    rw [hsite.anchor_eq hfault]
    rfl
  have hprinted :
      (Report.failure 1 fault.report).stderr.toList = fault.report.toList ++ ['\n'] := by
    rw [Report.failure, String.toList_append]
    rfl
  rw [hprinted, Text.lines_append_feed_cons, hlines, Token.reportHeader, hname]
  exact ⟨_, _, rfl⟩

/-- **The report on a fault agrees with a remark** of its message and its position. -/
theorem agrees_of_fault {text : List Char} {fault' : Fault}
    (hfault : (scan source filename 0).fault? = some fault) (hfilename : '\n' ∉ filename.toList)
    (hmessage : fault'.message = fault.message)
    (hposition : PairsCarriages text → fault'.position = fault.position) :
    (Report.failure 1 fault.report).Agrees filename text [fault'.remark] := by
  obtain ⟨shown, caret, hlines⟩ := lines_failure hfault hfilename
  constructor
  · exact iff_of_true rfl ⟨_, rfl⟩
  · exact iff_of_false (by simp [Report.failure]) (by simp)
  · simp [Report.failure]
  · intro remark hremark
    obtain rfl : fault'.remark = remark := by simpa using hremark
    rw [Fault.remark, hmessage]
    exact ⟨_, shown, caret, hlines⟩
  · intro hpairs remark hremark
    obtain rfl : fault'.remark = remark := by simpa using hremark
    rw [hlines, Fault.remark, hposition hpairs]
    rfl

/-- **A dump agrees with no remarks.** -/
theorem agrees_of_dump (dump : String) (text : List Char) :
    (⟨0, dump, "", none⟩ : Report).Agrees filename text [] := by
  constructor <;> simp

end

/-- **The command agrees with a workspace.**  Let a document have a text, and let the command be run
on a file with the same text in bytes, whose path is no flag and has no line feed, where no
configuration is beside it.  If the path of the configuration is too long to be looked at, the run
ends without a code.  Else it has one, unless the text is as long as no number that is written, or
so long that a caret is too far to the right: one exactly when there is one remark on the document,
and zero exactly when there is none; the last line that it prints on a fault is the message of the
remark, and where no carriage return of the text stands alone the line number in the header is that
of the remark, counted from one. -/
theorem run_agrees_with_workspace {complain : List Char → String} {look : Path → Entry}
    {name text : String} {w : Workspace} {request : Request}
    (hdocument : (w.apply request).text? request.uri = some text)
    (hflag : name.toList.head? ≠ some '-') (hname : '\n' ∉ name.toList)
    (hfile : look (.ofText name) = .file (Text.Utf8.encode text.toList))
    (hconfig : ∀ bytes, look (Options.configBeside (.ofInput name)) ≠ .file bytes) :
    (look (Options.configBeside (.ofInput name)) = .tooLong →
      run complain look [name] =
        .error (.file .nameTooLong (Options.configBeside (.ofInput name)))) ∧
    (look (Options.configBeside (.ofInput name)) ≠ .tooLong →
      Text.isWritable (text.toList.length + 1) = true →
        (∃ report, run complain look [name] = .ok report ∧
          report.Agrees (Path.ofText name).text text.toList (w.handle request).2.remarks) ∨
        Diagnostic.spaceLimit < text.toList.length ∧
          run complain look [name] = .error .caretTooFar) := by
  refine ⟨run_singleton_of_tooLong hflag, fun hlong hsize => ?_⟩
  have hremarks : (w.handle request).2.remarks = remarks request.uri text := by
    simp only [Workspace.handle, publish, hdocument, Option.getD_some]
  have hmessage := message_scan_unifyNewlines text (Path.ofText name).text
    (documentFile request.uri) 0
  have hposition := fun hpairs : PairsCarriages text.toList =>
    position_scan_unifyNewlines hpairs (Path.ofText name).text (documentFile request.uri) 0
  refine (run_singleton_of_file hflag hfile hconfig hlong hsize).imp_left fun hrun => ?_
  rw [hrun, hremarks, remarks]
  refine ⟨_, rfl, ?_⟩
  simp only [Scan.message?, Scan.position?] at hmessage hposition
  -- the file and the document are both scanned to the end, or both have a fault
  cases hread : (scan (String.ofList (Text.unifyNewlines text.toList)) (Path.ofText name).text
      0).fault? with
  | none =>
      rw [hread, Option.map_none, eq_comm, Option.map_eq_none_iff] at hmessage
      rw [hmessage]
      exact agrees_of_dump _ _
  | some fault =>
      rw [hread, Option.map_some, eq_comm, Option.map_eq_some_iff] at hmessage
      obtain ⟨fault', hfault', hmessage⟩ := hmessage
      rw [hread, hfault'] at hposition
      rw [hfault']
      exact agrees_of_fault hread (Path.feed_not_mem_text_ofText hname) hmessage
        fun hpairs => (Option.some.inj (hposition hpairs)).symm

/-- A literal over two line ends, and a fault behind a third, in a file and in a document. -/
theorem run_agrees_with_workspace_fault :
    let text := "f \"a\r\n\rb\"\r\n 1x"
    let tree : FileTree := ⟨[(["work", "src", "a.gl"], Text.Utf8.encode text.toList)], [], ["work"]⟩
    let request : Request := .change "file:///a.gl" ["f(", text]
    let complain : List Char → String := fun _ => "Expected '=' after a key"
    let remarks := ((Workspace.empty.put "file:///a.gl" "f").handle request).2.remarks
    ∃ report, run complain tree.entry ["src//a.gl"] = .ok report ∧ report.code = 1 ∧
      report.Agrees "src/a.gl" text.toList remarks ∧
      remarks.map Remark.message = ["InvalidSyntax: unexpected 'x' after integer literal"] := by
  intro text tree request complain remarks
  have hlook : tree.entry (Options.configBeside (.ofInput "src//a.gl")) = .vacant := by
    decide +kernel
  have hdocument : ((Workspace.empty.put "file:///a.gl" "f").apply request).text? request.uri =
      some text := by
    decide +kernel
  have hremarks : remarks.map Remark.message =
      ["InvalidSyntax: unexpected 'x' after integer literal"] := by
    decide +kernel
  have hfile : tree.entry (.ofText "src//a.gl") = .file (Text.Utf8.encode text.toList) := by
    decide +kernel
  have hagrees := @run_agrees_with_workspace complain _ _ _ _ _ hdocument (by decide) (by decide)
    hfile (by simp [hlook])
  have hlength : ¬ Diagnostic.spaceLimit < text.toList.length := by decide +kernel
  obtain ⟨report, hrun, hreport⟩ :=
    (hagrees.2 (by simp [hlook]) (by decide +kernel)).resolve_right fun h => hlength h.1
  obtain ⟨remark, hremark, -⟩ := List.map_eq_singleton_iff.mp hremarks
  have hpath : (Path.ofText "src//a.gl").text = "src/a.gl" := by decide +kernel
  rw [hpath] at hreport
  exact ⟨report, hrun, hreport.fails.mpr ⟨remark, hremark⟩, hreport, hremarks⟩

/-- A text without a fault, in a file and in a document.  The path of the file is such that the
configuration beside it has too long a path: no run reports what agrees with no remarks. -/
theorem not_agrees_of_detour :
    let path : Path := .detour "d" 817 "x"
    let tree : FileTree :=
      ⟨[(["work", "x"], Text.Utf8.encode "a".toList)], [["work", "d"]], ["work"]⟩
    tree.entry (.ofText path.text) = .file (Text.Utf8.encode "a".toList) ∧
      (∀ bytes, tree.entry (Options.configBeside (.ofInput path.text)) ≠ .file bytes) ∧
      remarks "file:///x" "a" = [] ∧
      ∀ complain report, run complain tree.entry [path.text] ≠ .ok report := by
  intro path tree
  have hpath : Path.ofText path.text = path := Path.ofText_text_detour (by decide) (by decide)
  have hentry : tree.entry (.ofText path.text) = .file (Text.Utf8.encode "a".toList) := by
    have hzero : path.hasZero = false := Path.hasZero_detour (by decide) (by decide)
    have hlong : path.isLong = false := Path.isLong_detour.trans (by decide)
    rw [hpath, FileTree.entry_detour (by decide) (by decide) (by decide) (by decide) hzero hlong]
    decide
  have hconfig : tree.entry (Options.configBeside (.ofInput path.text)) = .tooLong := by
    rw [Options.configBeside, Arguments.ofInput, hpath, Path.child_parent_detour]
    exact FileTree.entry_of_isLong (Path.hasZero_detour (by decide) (by decide))
      (Path.isLong_detour.trans (by decide))
  have hflag : path.text.toList.head? ≠ some '-' := fun hhead =>
    Path.not_mem_text (by decide) (by decide)
      (Path.forall_mem_detour (by decide) (by decide) (by decide)) (List.mem_of_mem_head? hhead)
  refine ⟨hentry, by simp [hconfig], by decide +kernel, fun complain report hrun => ?_⟩
  rw [run_singleton_of_tooLong hflag hconfig] at hrun
  exact nomatch hrun

end Lexis
