import Lexis.Proofs.Command.Ending
import Lexis.Proofs.Command.Written
import Mathlib.Control.Monad.Basic

/-!
# Command — what comes of a run

**A run with a code settles what it is asked** (`FileTree.run_settles`): it is refused, or finds a
fault, or dumps the tokens of its input, and the code tells which.  All is done or nothing: a dump
is written whole to one place, and a run that has none leaves the files as they were.

**A run without a code** is one that meets something unusable or has a mishap, and every other run
has one (`FileTree.run_ends`).
-/

namespace Lexis

variable {complain : List Char → String} {t : FileTree} {line : List String} {a : Arguments}
  {report : Report} {abort : Abort}

/-! ### The report of a run -/

section

variable {look : Path → Entry} {o : Options}

theorem Refusal.report_eq {reason : String} (hrefusal : Refusal complain look a reason)
    (h : Ends complain look a (.ok report)) : report = .failure 2 ("error: " ++ reason) :=
  Except.ok.inj (h.runWith_eq.symm.trans hrefusal.runWith_eq)

/-- The report of a run that finds a fault. -/
theorem Scans.report_eq_of_fault {fault : Fault} (hscan : Scans look a o (.error fault))
    (h : Ends complain look a (.ok report)) : report = .failure 1 fault.report := by
  have hrun := h.runWith_eq
  rw [runWith_of_fault hscan] at hrun
  split at hrun
  · exact (Except.ok.inj hrun).symm
  · exact nomatch hrun

/-- The report of a run that dumps tokens: the dump is printed, or else it is to be written. -/
theorem Scans.report_eq_of_tokens {tokens : List Token} (hscan : Scans look a o (.ok tokens))
    (h : Ends complain look a (.ok report)) :
    (o.output = none ∧ report = ⟨0, o.dump tokens, "", none⟩) ∨
    ∃ p, o.output = some p ∧ report = ⟨0, "", "", some (p, o.dump tokens)⟩ := by
  have hrun := h.runWith_eq
  cases hwritable : (o.format.getD .text).canWrite tokens with
  | false =>
      rw [runWith_of_tokens hscan, if_neg (by simp [hwritable])] at hrun
      cases hrun
  | true =>
      rw [runWith_of_tokens hscan, if_pos hwritable] at hrun
      cases houtput : o.output with
      | none =>
          rw [houtput] at hrun
          exact .inl ⟨rfl, (Except.ok.inj hrun).symm⟩
      | some p =>
          cases hobstacle : (look p).obstacle? with
          | some e =>
              simp only [houtput, Report.ofDump, hobstacle] at hrun
              cases hrun
          | none =>
              simp only [houtput, Report.ofDump, hobstacle] at hrun
              exact .inr ⟨p, rfl, (Except.ok.inj hrun).symm⟩

end

/-! ### The tree after a run -/

/-- What a run leaves in a tree, with its report: the tree as it was, or the output written. -/
def FileTree.Leaves (t : FileTree) (report : Report) (after : FileTree) : Prop :=
  match report.output with
  | none           => after = t
  | some (p, text) => t.Writes p (Text.Utf8.encode text.toList) after

theorem FileTree.run_of_runWith_error (hline : Arguments.parse line = .ok a)
    (h : runWith complain t.entry a = .error abort) : t.run complain line = .error abort := by
  simp only [FileTree.run, Lexis.run, hline, h]

/-- A report is given with the tree that it leaves: there is a place for every output in one. -/
theorem FileTree.exists_run (hline : Arguments.parse line = .ok a)
    (h : Ends complain t.entry a (.ok report)) :
    ∃ after, t.run complain line = .ok (report, after) ∧ t.Leaves report after := by
  have hrun := h.runWith_eq
  cases h with
  | refused _ | faulted _ _ | printed _ _ _ =>
      refine ⟨t, ?_, rfl⟩
      simp only [FileTree.run, Lexis.run, hline, hrun, Report.failure]
  | @written o tokens p hscan hwritable houtput hobstacle =>
      obtain ⟨after, hwrite, hafter⟩ :=
        FileTree.exists_write hobstacle (Text.Utf8.encode (o.dump tokens).toList)
      refine ⟨after, ?_, hafter⟩
      simp only [FileTree.run, Lexis.run, hline, hrun, hwrite]

/-- A run in a tree ends as it does among the files there are. -/
theorem FileTree.run_cases (t : FileTree) (hline : Arguments.parse line = .ok a) :
    (∃ abort, Ends complain t.entry a (.error abort) ∧ t.run complain line = .error abort) ∨
    ∃ report after, Ends complain t.entry a (.ok report) ∧
      t.run complain line = .ok (report, after) ∧ t.Leaves report after := by
  cases hrun : runWith complain t.entry a with
  | error abort => exact .inl ⟨abort, ends_iff.mpr hrun, run_of_runWith_error hline hrun⟩
  | ok report =>
      obtain ⟨after, hreport, hafter⟩ := exists_run hline (ends_iff.mpr hrun)
      exact .inr ⟨report, after, ends_iff.mpr hrun, hreport, hafter⟩

/-! ### What a run settles -/

/-- What a report and the tree after it tell of a run. -/
structure FileTree.Settles (t : FileTree) (complain : List Char → String) (a : Arguments)
    (report : Report) (after : FileTree) : Prop where
  code       : report.code = 0 ∨ report.code = 1 ∨ report.code = 2
  refused    : report.code = 2 ↔ ∃ reason, Refusal complain t.entry a reason
  faulted    : report.code = 1 ↔ ∃ o fault, Scans t.entry a o (.error fault)
  dumped     : report.code = 0 ↔ ∃ o tokens, Scans t.entry a o (.ok tokens)
  /-- A refusal is printed with its reason. -/
  reason     : ∀ reason, Refusal complain t.entry a reason →
    report.stderr = "error: " ++ reason ++ "\n"
  /-- A fault is printed, and no more. -/
  diagnostic : ∀ o fault, Scans t.entry a o (.error fault) → report.stderr = fault.report ++ "\n"
  quiet      : ∀ o tokens, Scans t.entry a o (.ok tokens) → report.stderr = ""
  /-- Without an output the dump is printed and not written, and no file is changed. -/
  printed    : ∀ o tokens, Scans t.entry a o (.ok tokens) → o.output = none →
    report.stdout = o.dump tokens ∧ report.output = none ∧ after = t
  /-- With an output the dump is written there, and it is not printed or written elsewhere. -/
  written    : ∀ o tokens p, Scans t.entry a o (.ok tokens) → o.output = some p →
    report.stdout = "" ∧ report.output = some (p, o.dump tokens) ∧
      t.Writes p (Text.Utf8.encode (o.dump tokens).toList) after
  /-- Without a dump nothing is printed as one or written, and no file is changed. -/
  unchanged  : report.code ≠ 0 → report.stdout = "" ∧ report.output = none ∧ after = t

/-- **Every report settles its run.** -/
theorem FileTree.settles_of_ends {after : FileTree} (h : Ends complain t.entry a (.ok report))
    (hafter : t.Leaves report after) : t.Settles complain a report after where
  code := by
    cases h with
    | refused _ => exact .inr (.inr rfl)
    | faulted _ _ => exact .inr (.inl rfl)
    | printed _ _ _ | written _ _ _ _ => exact .inl rfl
  refused := by
    constructor
    · intro hcode
      cases h with
      | refused hrefusal => exact ⟨_, hrefusal⟩
      | faulted _ _ | printed _ _ _ | written _ _ _ _ => exact nomatch hcode
    · rintro ⟨reason, hrefusal⟩
      rw [hrefusal.report_eq h]
      rfl
  faulted := by
    constructor
    · intro hcode
      cases h with
      | faulted hscan _ => exact ⟨_, _, hscan⟩
      | refused _ | printed _ _ _ | written _ _ _ _ => exact nomatch hcode
    · rintro ⟨o, fault, hscan⟩
      rw [hscan.report_eq_of_fault h]
      rfl
  dumped := by
    constructor
    · intro hcode
      cases h with
      | printed hscan _ _ => exact ⟨_, _, hscan⟩
      | written hscan _ _ _ => exact ⟨_, _, hscan⟩
      | refused _ | faulted _ _ => exact nomatch hcode
    · rintro ⟨o, tokens, hscan⟩
      rcases hscan.report_eq_of_tokens h with ⟨-, rfl⟩ | ⟨p, -, rfl⟩ <;> rfl
  reason := by
    intro reason hrefusal
    rw [hrefusal.report_eq h]
    rfl
  diagnostic := by
    intro o fault hscan
    rw [hscan.report_eq_of_fault h]
    rfl
  quiet := by
    intro o tokens hscan
    rcases hscan.report_eq_of_tokens h with ⟨-, rfl⟩ | ⟨p, -, rfl⟩ <;> rfl
  printed := by
    intro o tokens hscan houtput
    rcases hscan.report_eq_of_tokens h with ⟨-, rfl⟩ | ⟨p, houtput', -⟩
    · exact ⟨rfl, rfl, hafter⟩
    · rw [houtput] at houtput'
      exact nomatch houtput'
  written := by
    intro o tokens p hscan houtput
    rcases hscan.report_eq_of_tokens h with ⟨houtput', -⟩ | ⟨p', houtput', rfl⟩
    · rw [houtput] at houtput'
      exact nomatch houtput'
    · obtain rfl : p = p' := Option.some.inj (houtput.symm.trans houtput')
      exact ⟨rfl, rfl, hafter⟩
  unchanged := by
    intro hcode
    cases h with
    | refused _ | faulted _ _ => exact ⟨rfl, rfl, hafter⟩
    | printed _ _ _ | written _ _ _ _ => exact absurd rfl hcode

/-- A run without a code is one that meets something unusable or has a mishap. -/
theorem FileTree.run_eq_error_iff (hline : Arguments.parse line = .ok a) :
    t.run complain line = .error abort ↔ Unusable t.entry a abort ∨ Mishap t.entry a abort := by
  constructor
  · intro hrun
    rcases t.run_cases hline with ⟨abort', h, hrun'⟩ | ⟨report, after, -, hrun', -⟩
    · obtain rfl := Except.error.inj (hrun.symm.trans hrun')
      cases h with
      | unusable h => exact .inl h
      | mishap h => exact .inr h
    · exact nomatch hrun.symm.trans hrun'
  · rintro (h | h)
    · exact run_of_runWith_error hline h.runWith_eq
    · exact run_of_runWith_error hline h.runWith_eq

theorem FileTree.settles_of_run {after : FileTree} (hline : Arguments.parse line = .ok a)
    (hrun : t.run complain line = .ok (report, after)) : t.Settles complain a report after := by
  rcases t.run_cases hline with ⟨abort, -, hrun'⟩ | ⟨report', after', h, hrun', hafter⟩
  · exact nomatch hrun.symm.trans hrun'
  · obtain ⟨rfl, rfl⟩ := Prod.mk.inj (Except.ok.inj (hrun.symm.trans hrun'))
    exact settles_of_ends h hafter

/-! ### Every run -/

/-- **A run settles what it is asked.**  Let the arguments be read, the configuration be text if it
is a file, and the output have a place if there is one; and let the run have no mishap.  Then it has
a code, two where it is refused, one where its input has a fault and zero where its input is tokens.
A refusal is printed with its reason, a fault with its report, and the dump of the tokens is printed
or else written.  Without a dump the files are as they were; with one no other file is changed. -/
theorem FileTree.run_settles (hline : Arguments.parse line = .ok a)
    (hconfig : ∀ bytes, t.entry (Options.configPath a) = .file bytes →
      ∃ text, Text.Utf8.decode bytes = .ok text)
    (houtput : ∀ p, Options.givenPath a.output = some p → (t.entry p).obstacle? = none)
    (hmishap : ∀ abort, ¬ Mishap t.entry a abort) :
    ∃ report after, t.run complain line = .ok (report, after) ∧
      t.Settles complain a report after := by
  cases hrun : t.run complain line with
  | ok result =>
      obtain ⟨report, after⟩ := result
      exact ⟨report, after, rfl, settles_of_run hline hrun⟩
  | error abort =>
      rcases (run_eq_error_iff hline).mp hrun with hunusable | h
      · cases hunusable with
        | config hentry hbytes =>
            obtain ⟨text, htext⟩ := hconfig _ hentry
            exact nomatch hbytes.symm.trans htext
        | output hscan _ hpath hobstacle =>
            rw [Options.output_of_resolve hscan.1] at hpath
            exact nomatch (houtput _ hpath).symm.trans hobstacle
      · exact absurd h (hmishap abort)

/-- A run that writes over a file above the working directory, with a start line from the
configuration beside the input, which a path from the root leads to. -/
theorem FileTree.run_settles_written :
    let t : FileTree := ⟨[(["src", "a.gl"], Text.Utf8.encode "\r\nf".toList),
      (["src", "glscan.toml"], Text.Utf8.encode "[scan]\nstart_line = 7\n".toList),
      (["out"], Text.Utf8.encode "old".toList)], [], ["work"]⟩
    let a : Arguments := ⟨"/src/a.gl", some (.value "../out"), none, none, none, none, false⟩
    let complain : List Char → String := fun _ => "Expected '=' after a key"
    let dump := "8:1-8:2  IDENTIFIER 'f'\n8:2-8:2  EOF\n"
    ∃ report after, t.run complain ["/src/a.gl", "-o", "../out"] = .ok (report, after) ∧
      report.code = 0 ∧ t.Settles complain a report after ∧
      after.file? ["out"] = some (Text.Utf8.encode dump.toList) := by
  intro t a complain dump
  have hline : Arguments.parse ["/src/a.gl", "-o", "../out"] = .ok a := by decide +kernel
  have hconfig : t.entry (Options.configPath a) =
      .file (Text.Utf8.encode "[scan]\nstart_line = 7\n".toList) := by decide +kernel
  have hout : (t.entry (.ofText "../out")).obstacle? = none := by decide +kernel
  have hresult : (t.run complain ["/src/a.gl", "-o", "../out"]).map
      (fun result => (result.1.code, result.2.file? ["out"])) =
        .ok (0, some (Text.Utf8.encode dump.toList)) := by
    decide +kernel
  obtain ⟨report, after, hrun, hsettles⟩ := run_settles hline
    (fun bytes hbytes => by
      obtain rfl := Entry.file.inj (hconfig.symm.trans hbytes)
      exact ⟨_, Text.Utf8.decode_encode _⟩)
    (fun p hp => by
      obtain rfl := Option.some.inj hp
      exact hout)
    (fun abort hmishap => by
      rw [run_of_runWith_error hline hmishap.runWith_eq] at hresult
      exact nomatch hresult)
  rw [hrun] at hresult
  obtain ⟨hcode, hfile⟩ := Prod.mk.inj (Except.ok.inj hresult)
  exact ⟨report, after, hrun, hcode, hsettles, hfile⟩

/-- The start line is asked for with nothing in its place. -/
example : (⟨[(["a"], Text.Utf8.encode "x".toList)], [], []⟩ : FileTree).run (fun _ => "")
    ["a", "--start-line=--"] = .error .noStartLine := by
  decide +kernel

/-- **A run ends with a code, unless** it meets something unusable or has a mishap.  Whatever it is
refused for is printed as an error, with code two. -/
theorem FileTree.run_ends (hline : Arguments.parse line = .ok a) :
    (∀ abort, t.run complain line = .error abort ↔
      Unusable t.entry a abort ∨ Mishap t.entry a abort) ∧
    (∀ report after, t.run complain line = .ok (report, after) →
      (report.code = 0 ∨ report.code = 1 ∨ report.code = 2) ∧
      (report.code = 2 → ∃ reason, report.stderr = "error: " ++ reason ++ "\n")) ∧
    (∀ reason, Refusal complain t.entry a reason →
      t.run complain line = .ok (.failure 2 ("error: " ++ reason), t)) := by
  refine ⟨fun abort => run_eq_error_iff hline, fun report after hrun => ?_,
    fun reason hrefusal => ?_⟩
  · have hsettles := settles_of_run hline hrun
    refine ⟨hsettles.code, fun hcode => ?_⟩
    obtain ⟨reason, hrefusal⟩ := hsettles.refused.mp hcode
    exact ⟨reason, hsettles.reason reason hrefusal⟩
  · obtain ⟨after, hrun, hafter⟩ := exists_run hline (.refused hrefusal)
    obtain rfl : after = t := hafter
    exact hrun

/-- A run whose output is in a folder that is not there. -/
theorem FileTree.run_ends_nowhere :
    let t : FileTree := ⟨[(["work", "a"], Text.Utf8.encode "x".toList)], [], ["work"]⟩
    let a : Arguments := ⟨"a", some (.value "no/out"), none, none, none, none, false⟩
    let complain : List Char → String := fun _ => "Expected '=' after a key"
    t.run complain ["a", "-o", "no/out"] = .error (.file .notFound (.ofText "no/out")) ∧
      (Unusable t.entry a (.file .notFound (.ofText "no/out")) ∨
        Mishap t.entry a (.file .notFound (.ofText "no/out"))) := by
  intro t a complain
  have hline : Arguments.parse ["a", "-o", "no/out"] = .ok a := by decide +kernel
  have hrun : t.run complain ["a", "-o", "no/out"] =
      .error (.file .notFound (.ofText "no/out")) := by
    decide +kernel
  exact ⟨hrun, ((run_ends hline).1 _).mp hrun⟩

end Lexis
