import Lexis.Proofs.Command.Ending
import Lexis.Proofs.Command.Paths
import Lexis.Proofs.Scan.Spans
import Lexis.Proofs.Text.Newlines

/-!
# Command — a run with one argument

The run of a command line that has an input and no flags.  Its options are the defaults, where there
is no configuration beside the input (`Options.resolve_ofInput`).  Of a file that holds a text it
dumps the tokens, or it reports the fault of the text's scan (`run_singleton_of_file`): the numbers
in both are of places in the text (`Position.IsPlace.isWritable`), so they can be written unless the
text is as long as no number that is written.  Nor is the caret too far to the right, unless the
text is longer than the spaces in front of a caret can be (`excess?_of_scan`).
-/

namespace Lexis

/-! ### Arguments and options -/

namespace Arguments

/-- The arguments of a command line that has an input only. -/
def ofInput (name : String) : Arguments :=
  ⟨name, none, none, none, none, none, false⟩

theorem parse_singleton {name : String} (h : name.toList.head? ≠ some '-') :
    parse [name] = .ok (ofInput name) := by
  have hne : name ≠ "--" := by
    rintro rfl
    exact h (by decide)
  have hshape : Shape.of name = .ok .plain := by
    rw [Shape.of]
    exact if_pos h
  have hlist : Shape.ofList [name] = .ok [(name, .plain)] := by
    rw [Shape.ofList]
    · rw [hshape, Shape.ofList]
      rfl
    · exact hne
  rw [parse, hlist]
  rfl

end Arguments

namespace Options

/-- The options of a run that has an input only, and no settings. -/
def ofInput (name : String) : Options :=
  ⟨.ofText name, none, .value (Path.ofText name).text, 1, .value .text, false⟩

/-- **The options of a run with an input only**, and no configuration beside it. -/
theorem resolve_ofInput {look : Path → Entry} {name : String}
    (hconfig : ∀ bytes, look (configBeside (.ofInput name)) ≠ .file bytes)
    (hlong : look (configBeside (.ofInput name)) ≠ .tooLong) :
    resolve look (.ofInput name) = .ok (ofInput name) := by
  have hsettings : Configures look (.ofInput name) .empty := .absent hconfig hlong
  exact resolve_of_configures hsettings

end Options

/-- Beside an input whose folder has too long a path no configuration can be looked for. -/
theorem run_singleton_of_tooLong {complain : List Char → String} {look : Path → Entry}
    {name : String}
    (hflag : name.toList.head? ≠ some '-')
    (hlong : look (Options.configBeside (.ofInput name)) = .tooLong) :
    run complain look [name] =
      .error (.file .nameTooLong (Options.configBeside (.ofInput name))) := by
  have hmishap : Mishap look (.ofInput name) _ := .configPath hlong
  rw [run, Arguments.parse_singleton hflag]
  exact hmishap.runWith_eq

/-! ### Numbers -/

theorem Text.isWritable_of_le {m n : Int} (hm : 0 ≤ m) (hle : m ≤ n)
    (h : Text.isWritable n = true) : Text.isWritable m = true := by
  rw [Text.isWritable, decide_eq_true_eq] at h ⊢
  exact Nat.lt_of_le_of_lt (by omega) h

/-- **The numbers of a place** are no more than one above the length of its text. -/
theorem Position.IsPlace.isWritable {text : List Char} {p : Position} (h : p.IsPlace text 0)
    (hsize : Text.isWritable (text.length + 1) = true) :
    Text.isWritable (p.line + 1) = true ∧ Text.isWritable (p.column + 1) = true := by
  obtain ⟨hline, -, hcolumn, l, hl, hle⟩ := h
  have hlines : (p.line - 0).toNat < (Text.lines text).length :=
    (List.getElem?_eq_some_iff.mp hl).1
  have hcount : text.count '\n' ≤ text.length := List.count_le_length
  have hlength := (Text.sublist_of_mem_fields (List.mem_of_getElem? hl)).length_le
  rw [Text.length_lines] at hlines
  exact ⟨Text.isWritable_of_le (by omega) (by omega) hsize,
    Text.isWritable_of_le (by omega) (by omega) hsize⟩

/-- The column of a place is no more than the length of its text, nor is the caret under it further
to the right. -/
theorem Position.IsPlace.caretColumn_le {text : List Char} {p : Position} (h : p.IsPlace text 0)
    (line : List Char) : Diagnostic.caretColumn line p.column ≤ text.length := by
  obtain ⟨-, -, hcolumn, l, hl, hle⟩ := h
  have hlength := (Text.sublist_of_mem_fields (List.mem_of_getElem? hl)).length_le
  rw [Diagnostic.caretColumn]
  omega

section

variable {source filename : String} (hsize : Text.isWritable (source.toList.length + 1) = true)
include hsize

/-- There can be a report on the fault of a scan, but for a caret that is too far to the right. -/
theorem excess?_of_scan {fault : Fault} (h : (scan source filename 0).fault? = some fault) :
    fault.anchor.excess? = none ∨
      Diagnostic.spaceLimit < source.toList.length ∧ fault.anchor.excess? = some .spaces := by
  obtain ⟨hplace, -⟩ := isPlaced_of_mem_scan source filename 0 _ (anchor_mem_scan h)
  have hcaret := hplace.caretColumn_le fault.anchor.lineText.toList
  rw [Token.excess?]
  split
  · next hspaces => exact .inr ⟨Nat.lt_of_lt_of_le hspaces hcaret, rfl⟩
  · exact .inl (if_pos (hplace.isWritable hsize).1)

theorem canWrite_text_scan : Format.text.canWrite (scan source filename 0).tokens = true := by
  rw [Format.canWrite, List.all_eq_true]
  intro t ht
  obtain ⟨hstart, hstop⟩ := isPlaced_of_mem_scan source filename 0 t ht
  simp [Format.numbers, hstart.isWritable hsize, hstop.isWritable hsize]

end

/-! ### Files -/

section

variable {look : Path → Entry} {name text : String} (hflag : name.toList.head? ≠ some '-')
  (hfile : look (.ofText name) = .file (Text.Utf8.encode text.toList))
  (hconfig : ∀ bytes, look (Options.configBeside (.ofInput name)) ≠ .file bytes)
  (hlong : look (Options.configBeside (.ofInput name)) ≠ .tooLong)

include hfile hconfig hlong in
theorem scans_ofInput :
    Scans look (.ofInput name) (.ofInput name)
      (tokenize (String.ofList (Text.unifyNewlines text.toList)) (Path.ofText name).text 0) :=
  ⟨Options.resolve_ofInput hconfig hlong, text.toList, ⟨_, hfile, Text.Utf8.decode_encode _⟩, rfl⟩

include hflag hfile hconfig hlong in
/-- **A run on a file that holds a text** is a dump of its tokens or a report on its fault, unless
the text is so long that the caret is too far to the right. -/
theorem run_singleton_of_file {complain : List Char → String}
    (hsize : Text.isWritable (text.toList.length + 1) = true) :
    let read := scan (String.ofList (Text.unifyNewlines text.toList)) (Path.ofText name).text 0
    run complain look [name] = .ok
      (match read.fault? with
       | some fault => .failure 1 fault.report
       | none       => ⟨0, dumpText read.tokens, "", none⟩) ∨
    Diagnostic.spaceLimit < text.toList.length ∧
      run complain look [name] = .error .caretTooFar := by
  intro read
  have hle := Text.length_unifyNewlines_le text.toList
  have hread : Text.isWritable
      ((String.ofList (Text.unifyNewlines text.toList)).toList.length + 1) = true := by
    rw [String.toList_ofList]
    exact Text.isWritable_of_le (by omega) (by omega) hsize
  have hscan := scans_ofInput hfile hconfig hlong
  rw [tokenize_eq] at hscan
  rw [run, Arguments.parse_singleton hflag]
  cases hfault : read.fault? with
  | some fault =>
      simp only [read] at hfault
      rw [hfault] at hscan
      have hrun : runWith complain look _ = _ := runWith_of_fault hscan
      rcases excess?_of_scan hread hfault with hnone | ⟨hlength, hspaces⟩
      · rw [hnone] at hrun
        exact .inl hrun
      · rw [hspaces] at hrun
        rw [String.toList_ofList] at hlength
        exact .inr ⟨Nat.lt_of_lt_of_le hlength hle, hrun⟩
  | none =>
      simp only [read] at hfault
      rw [hfault] at hscan
      exact .inl ((runWith_of_tokens hscan).trans (if_pos (canWrite_text_scan hread)))

end

end Lexis
