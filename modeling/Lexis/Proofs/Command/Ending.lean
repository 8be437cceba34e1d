import Lexis.Command
import Lexis.Proofs.Command.Resolution

/-!
# Command — the endings of a run

A run with its arguments read ends by one of six rules (`Ends`): it is refused (`Refusal`), it finds
a fault, it prints a dump, it has a dump to write, it meets something unusable (`Unusable`), or it
has a mishap (`Mishap`); in the last two it comes to no code.  The rules say which files and
arguments lead to which ending, without the functions that a run goes through, and whatever a TOML
parser says of a text that is no document.

**The rules are those of a run** (`ends_iff`): each gives the result of every run that it applies
to, and to every run one applies.
-/

namespace Lexis

open Options (configPath firstLine resolve)

variable {complain : List Char → String} {look : Path → Entry} {a : Arguments}

/-! ### What a run meets -/

/-- A run comes as far as the scan of its input, with a fault or tokens. -/
def Scans (look : Path → Entry) (a : Arguments) (o : Options)
    (result : Except Fault (List Token)) : Prop :=
  resolve look a = .ok o ∧ ∃ text, HoldsText look o.input text ∧
    tokenize (String.ofList (Text.unifyNewlines text)) o.filename.shown (o.startLine - 1) = result

/-- The dump of tokens in the format of a run. -/
def Options.dump (o : Options) (tokens : List Token) : String :=
  (o.format.getD .text).write tokens

/-- Why a run is refused: its configuration, its start line or its format is wrong, or its input
cannot be read as text. -/
inductive Refusal (complain : List Char → String) (look : Path → Entry) (a : Arguments) :
    String → Prop
  | config {text : List Char} (htext : HoldsText look (configPath a) text)
      (hparse : Toml.parse text = .error .malformed) :
      Refusal complain look a ("invalid config file: " ++ complain text)
  | startLine {s : Settings} {n : Int} (hsettings : Options.Configures look a s)
      (hline : firstLine a s = .value n) (hn : n < 1) :
      Refusal complain look a ("start line must be at least 1: " ++ Text.integer n)
  | format {s : Settings} {n : Int} {value : Toml.Value} (hsettings : Options.Configures look a s)
      (hline : firstLine a s = .value n) (hn : 1 ≤ n) (hvalue : s.format = some value)
      (hname : ∀ format : Format, value ≠ .string format.name)
      (hdepth : value.depth ≤ Toml.Value.depthLimit) (hwritable : value.isWritable = true) :
      Refusal complain look a ("invalid output format in config: " ++ String.ofList value.shown)
  | unreadable {o : Options} {e : FileError} (hresolve : resolve look a = .ok o)
      (hread : (look o.input).read = .error e) (hzero : e ≠ .zeroCharacter) :
      Refusal complain look a ("cannot read " ++ o.input.text ++ ": " ++ e.message o.input)
  | notText {o : Options} {bytes : List UInt8} {failure : Text.Utf8.Failure}
      (hresolve : resolve look a = .ok o) (hentry : look o.input = .file bytes)
      (hbytes : Text.Utf8.decode bytes = .error failure) :
      Refusal complain look a ("cannot read " ++ o.input.text ++ ": " ++ failure.message)

/-- What a run cannot use: a configuration that is no text, or an output with no place for it. -/
inductive Unusable (look : Path → Entry) (a : Arguments) : Abort → Prop
  | config {bytes : List UInt8} {failure : Text.Utf8.Failure}
      (hentry : look (configPath a) = .file bytes)
      (hbytes : Text.Utf8.decode bytes = .error failure) :
      Unusable look a (.configNotText failure)
  | output {o : Options} {tokens : List Token} {p : Path} {e : FileError}
      (hscan : Scans look a o (.ok tokens))
      (hwritable : (o.format.getD .text).canWrite tokens = true)
      (houtput : o.output = some p) (hobstacle : (look p).obstacle? = some e) :
      Unusable look a (.file e p)

/-- What a run does not reckon with: a path that no system looks up, a start line that is nothing,
and what is too deep, has too many digits, or is too far to the right to be read or written. -/
inductive Mishap (look : Path → Entry) (a : Arguments) : Abort → Prop
  | configPath (hentry : look (configPath a) = .tooLong) :
      Mishap look a (.file .nameTooLong (configPath a))
  | configDigits {text : List Char} {count : Nat} (htext : HoldsText look (configPath a) text)
      (hparse : Toml.parse text = .error (.tooManyDigits count)) :
      Mishap look a (.configTooManyDigits count)
  | configDepth {text : List Char} (htext : HoldsText look (configPath a) text)
      (hparse : Toml.parse text = .error .tooDeep) : Mishap look a .configTooDeep
  | startLine {s : Settings} (hsettings : Options.Configures look a s)
      (hline : a.startLine = some .nothing) : Mishap look a .noStartLine
  | formatDepth {s : Settings} {n : Int} {value : Toml.Value}
      (hsettings : Options.Configures look a s) (hline : firstLine a s = .value n) (hn : 1 ≤ n)
      (hvalue : s.format = some value) (hname : ∀ format : Format, value ≠ .string format.name)
      (hdepth : Toml.Value.depthLimit < value.depth) : Mishap look a .formatTooDeep
  | formatDigits {s : Settings} {n : Int} {value : Toml.Value}
      (hsettings : Options.Configures look a s) (hline : firstLine a s = .value n) (hn : 1 ≤ n)
      (hvalue : s.format = some value) (hname : ∀ format : Format, value ≠ .string format.name)
      (hdepth : value.depth ≤ Toml.Value.depthLimit) (hwritable : value.isWritable = false) :
      Mishap look a .numberTooLong
  | inputPath {o : Options} (hresolve : resolve look a = .ok o)
      (hentry : look o.input = .unnameable) : Mishap look a (.file .zeroCharacter o.input)
  | report {o : Options} {fault : Fault} {excess : Diagnostic.Excess}
      (hscan : Scans look a o (.error fault)) (hexcess : fault.anchor.excess? = some excess) :
      Mishap look a (.ofExcess excess)
  | dumpDigits {o : Options} {tokens : List Token} (hscan : Scans look a o (.ok tokens))
      (hwritable : (o.format.getD .text).canWrite tokens = false) : Mishap look a .numberTooLong

/-! ### The rules -/

/-- How a run ends. -/
inductive Ends (complain : List Char → String) (look : Path → Entry) (a : Arguments) :
    Except Abort Report → Prop
  | refused {reason : String} (h : Refusal complain look a reason) :
      Ends complain look a (.ok (.failure 2 ("error: " ++ reason)))
  | faulted {o : Options} {fault : Fault} (hscan : Scans look a o (.error fault))
      (hreport : fault.canReport = true) : Ends complain look a (.ok (.failure 1 fault.report))
  | printed {o : Options} {tokens : List Token} (hscan : Scans look a o (.ok tokens))
      (hwritable : (o.format.getD .text).canWrite tokens = true) (houtput : o.output = none) :
      Ends complain look a (.ok ⟨0, o.dump tokens, "", none⟩)
  | written {o : Options} {tokens : List Token} {p : Path} (hscan : Scans look a o (.ok tokens))
      (hwritable : (o.format.getD .text).canWrite tokens = true) (houtput : o.output = some p)
      (hobstacle : (look p).obstacle? = none) :
      Ends complain look a (.ok ⟨0, "", "", some (p, o.dump tokens)⟩)
  | unusable {abort : Abort} (h : Unusable look a abort) : Ends complain look a (.error abort)
  | mishap {abort : Abort} (h : Mishap look a abort) : Ends complain look a (.error abort)

/-! ### Each rule gives the result of a run -/

section

variable {o : Options} {s : Settings} {e : OptionsError} {abort : Abort}

theorem runWith_of_resolve_abort (h : resolve look a = .error (.abort abort)) :
    runWith complain look a = .error abort := by
  simp only [runWith, h]

theorem sourceText_of_holdsText {p : Path} {text : List Char} (h : HoldsText look p text) :
    sourceText (look p) = .ok (String.ofList (Text.unifyNewlines text)) := by
  obtain ⟨bytes, hentry, hbytes⟩ := h
  simp only [sourceText, hentry, Entry.read, hbytes]

/-- A run whose scan finds a fault reports it, if nothing is too much for a report. -/
theorem runWith_of_fault {fault : Fault} (h : Scans look a o (.error fault)) :
    runWith complain look a =
      match fault.anchor.excess? with
      | none        => .ok (.failure 1 fault.report)
      | some excess => .error (.ofExcess excess) := by
  obtain ⟨hresolve, text, htext, hscan⟩ := h
  simp only [runWith, hresolve, dumpSource, sourceText_of_holdsText htext, hscan,
    SourceError.ofFault]
  cases fault.anchor.excess? <;> rfl

/-- A run whose scan finds tokens delivers their dump, if it can be written. -/
theorem runWith_of_tokens {tokens : List Token} (h : Scans look a o (.ok tokens)) :
    runWith complain look a =
      if (o.format.getD .text).canWrite tokens then Report.ofDump look o.output (o.dump tokens)
      else .error .numberTooLong := by
  obtain ⟨hresolve, text, htext, hscan⟩ := h
  simp only [runWith, hresolve, dumpSource, sourceText_of_holdsText htext, hscan]
  cases (o.format.getD .text).canWrite tokens <;>
    simp [Report.ofSourceError, Abort.ofExcess, Options.dump]

/-- An input that is not read as text ends the run. -/
theorem runWith_of_sourceText {e : SourceError} (hresolve : resolve look a = .ok o)
    (h : sourceText (look o.input) = .error e) :
    runWith complain look a = Report.ofSourceError o.input e := by
  simp only [runWith, hresolve, dumpSource, h]

theorem cannotRead_eq (input : Path) (reason : String) :
    Report.ofSourceError.cannotRead input reason =
      .failure 2 ("error: " ++ ("cannot read " ++ input.text ++ ": " ++ reason)) := by
  have hwords : "error: cannot read " = "error: " ++ "cannot read " := rfl
  rw [Report.ofSourceError.cannotRead, hwords]
  simp only [String.append_assoc]

theorem resolve_of_configFormat {n : Int} {value : Toml.Value}
    (hsettings : Options.Configures look a s) (hline : firstLine a s = .value n) (hn : 1 ≤ n)
    (hvalue : s.format = some value) (hname : ∀ format : Format, value ≠ .string format.name) :
    resolve look a = .error (.ofFormat value) := by
  refine Options.resolve_eq_error_iff.mpr (.inr ⟨s, hsettings, ?_⟩)
  exact Options.merge_eq_error_iff.mpr (.inr ⟨n, hline, .inr ⟨hn,
    Options.configFormat_eq_error_iff.mpr ⟨value, hvalue, hname, rfl⟩⟩⟩)

end

theorem Refusal.runWith_eq {reason : String} (h : Refusal complain look a reason) :
    runWith complain look a = .ok (.failure 2 ("error: " ++ reason)) := by
  cases h with
  | config htext hparse =>
      have hresolve : resolve look a = .error (.configNotToml _) := Options.resolve_eq_error_iff.mpr
        (.inl (Options.settings_eq_error_iff.mpr (.inr (.inr ⟨_, _, htext, hparse, rfl⟩))))
      simp only [runWith, hresolve]
      rfl
  | @startLine s n hsettings hline hn =>
      have hresolve : resolve look a = .error (.startLineBelowOne n) :=
        Options.resolve_eq_error_iff.mpr (.inr ⟨s, hsettings,
          Options.merge_eq_error_iff.mpr (.inr ⟨n, hline, .inl ⟨hn, rfl⟩⟩)⟩)
      simp only [runWith, hresolve]
      rfl
  | format hsettings hline hn hvalue hname hdepth hwritable =>
      have hresolve := resolve_of_configFormat hsettings hline hn hvalue hname
      rw [OptionsError.ofFormat, if_neg (Nat.not_lt.mpr hdepth), if_pos hwritable] at hresolve
      simp only [runWith, hresolve]
      rfl
  | @unreadable o e hresolve hread hzero =>
      have hsource : sourceText (look o.input) = .error (.unreadable e) := by
        simp only [sourceText, hread]
      rw [runWith_of_sourceText hresolve hsource]
      cases e with
      | zeroCharacter => exact absurd rfl hzero
      | notFound | notDirectory | isDirectory | nameTooLong =>
          rw [Report.ofSourceError, cannotRead_eq]
          simp
  | @notText o bytes failure hresolve hentry hbytes =>
      have hsource : sourceText (look o.input) = .error (.notText failure) := by
        simp only [sourceText, hentry, Entry.read, hbytes]
      rw [runWith_of_sourceText hresolve hsource]
      rw [Report.ofSourceError, cannotRead_eq]

theorem Unusable.runWith_eq {abort : Abort} (h : Unusable look a abort) :
    runWith complain look a = .error abort := by
  cases h with
  | config hentry hbytes =>
      exact runWith_of_resolve_abort (Options.resolve_eq_error_iff.mpr
        (.inl (Options.settings_eq_error_iff.mpr (.inr (.inl ⟨_, _, hentry, hbytes, rfl⟩)))))
  | output hscan hwritable houtput hobstacle =>
      rw [runWith_of_tokens hscan, if_pos hwritable]
      simp only [houtput, Report.ofDump, hobstacle]

theorem Mishap.runWith_eq {abort : Abort} (h : Mishap look a abort) :
    runWith complain look a = .error abort := by
  cases h with
  | configPath hentry =>
      exact runWith_of_resolve_abort (Options.resolve_eq_error_iff.mpr
        (.inl (Options.settings_eq_error_iff.mpr (.inl ⟨hentry, rfl⟩))))
  | configDigits htext hparse | configDepth htext hparse =>
      exact runWith_of_resolve_abort (Options.resolve_eq_error_iff.mpr
        (.inl (Options.settings_eq_error_iff.mpr (.inr (.inr ⟨_, _, htext, hparse, rfl⟩)))))
  | startLine hsettings hline =>
      exact runWith_of_resolve_abort (Options.resolve_eq_error_iff.mpr
        (.inr ⟨_, hsettings, Options.merge_eq_error_iff.mpr (.inl ⟨hline, rfl⟩)⟩))
  | formatDepth hsettings hline hn hvalue hname hdepth =>
      have hresolve := resolve_of_configFormat hsettings hline hn hvalue hname
      rw [OptionsError.ofFormat, if_pos hdepth] at hresolve
      exact runWith_of_resolve_abort hresolve
  | formatDigits hsettings hline hn hvalue hname hdepth hwritable =>
      have hresolve := resolve_of_configFormat hsettings hline hn hvalue hname
      rw [OptionsError.ofFormat, if_neg (Nat.not_lt.mpr hdepth), hwritable] at hresolve
      exact runWith_of_resolve_abort hresolve
  | @inputPath o hresolve hentry =>
      have hsource : sourceText (look o.input) = .error (.unreadable .zeroCharacter) := by
        simp only [sourceText, hentry, Entry.read]
      rw [runWith_of_sourceText hresolve hsource, Report.ofSourceError]
  | report hscan hexcess =>
      rw [runWith_of_fault hscan, hexcess]
  | dumpDigits hscan hwritable =>
      rw [runWith_of_tokens hscan, if_neg (by simp [hwritable])]

/-- **Each rule is sound**: the ending that it gives is the result of the run. -/
theorem Ends.runWith_eq {result : Except Abort Report} (h : Ends complain look a result) :
    runWith complain look a = result := by
  cases h with
  | refused h => exact h.runWith_eq
  | faulted hscan hreport =>
      rw [runWith_of_fault hscan, Fault.canReport_iff.mp hreport]
  | printed hscan hwritable houtput =>
      rw [runWith_of_tokens hscan, if_pos hwritable, houtput, Report.ofDump]
  | written hscan hwritable houtput hobstacle =>
      rw [runWith_of_tokens hscan, if_pos hwritable]
      simp only [houtput, Report.ofDump, hobstacle]
  | unusable h => exact h.runWith_eq
  | mishap h => exact h.runWith_eq

/-! ### To every run a rule applies -/

/-- Where there are no options, a run is refused or comes to no code. -/
theorem exists_ends_of_resolve_error {e : OptionsError} (h : resolve look a = .error e) :
    ∃ result, Ends complain look a result := by
  rcases Options.resolve_eq_error_iff.mp h with hconfig | ⟨s, hsettings, hmerge⟩
  · rcases Options.settings_eq_error_iff.mp hconfig with ⟨hentry, -⟩ |
      ⟨bytes, failure, hentry, hbytes, -⟩ | ⟨text, flaw, htext, hparse, -⟩
    · exact ⟨_, .mishap (.configPath hentry)⟩
    · exact ⟨_, .unusable (.config hentry hbytes)⟩
    · cases flaw with
      | malformed => exact ⟨_, .refused (.config htext hparse)⟩
      | tooManyDigits count => exact ⟨_, .mishap (.configDigits htext hparse)⟩
      | tooDeep => exact ⟨_, .mishap (.configDepth htext hparse)⟩
  · rcases Options.merge_eq_error_iff.mp hmerge with ⟨hline, -⟩ |
      ⟨n, hline, ⟨hn, -⟩ | ⟨hn, hformat⟩⟩
    · exact ⟨_, .mishap (.startLine hsettings hline)⟩
    · exact ⟨_, .refused (.startLine hsettings hline hn)⟩
    · obtain ⟨value, hvalue, hname, -⟩ := Options.configFormat_eq_error_iff.mp hformat
      rcases Nat.lt_or_ge Toml.Value.depthLimit value.depth with hdepth | hdepth
      · exact ⟨_, .mishap (.formatDepth hsettings hline hn hvalue hname hdepth)⟩
      · cases hwritable : value.isWritable with
        | true => exact ⟨_, .refused (.format hsettings hline hn hvalue hname hdepth hwritable)⟩
        | false =>
            exact ⟨_, .mishap (.formatDigits hsettings hline hn hvalue hname hdepth hwritable)⟩

theorem exists_ends_of_scans {o : Options} {result : Except Fault (List Token)}
    (h : Scans look a o result) : ∃ result, Ends complain look a result := by
  cases result with
  | error fault =>
      cases hexcess : fault.anchor.excess? with
      | none => exact ⟨_, .faulted h (Fault.canReport_iff.mpr hexcess)⟩
      | some excess => exact ⟨_, .mishap (.report h hexcess)⟩
  | ok tokens =>
      cases hwritable : (o.format.getD .text).canWrite tokens with
      | false => exact ⟨_, .mishap (.dumpDigits h hwritable)⟩
      | true =>
          cases houtput : o.output with
          | none => exact ⟨_, .printed h hwritable houtput⟩
          | some p =>
              cases hobstacle : (look p).obstacle? with
              | none => exact ⟨_, .written h hwritable houtput hobstacle⟩
              | some e => exact ⟨_, .unusable (.output h hwritable houtput hobstacle)⟩

/-- **The rules are exhaustive.** -/
theorem exists_ends (complain : List Char → String) (look : Path → Entry) (a : Arguments) :
    ∃ result, Ends complain look a result := by
  cases hresolve : resolve look a with
  | error e => exact exists_ends_of_resolve_error hresolve
  | ok o =>
      cases hread : (look o.input).read with
      | error e =>
          by_cases hzero : e = .zeroCharacter
          · have hentry : look o.input = .unnameable := by
              cases hentry : look o.input <;> simp_all [Entry.read]
            exact ⟨_, .mishap (.inputPath hresolve hentry)⟩
          · exact ⟨_, .refused (.unreadable hresolve hread hzero)⟩
      | ok bytes =>
          have hentry : look o.input = .file bytes := by
            cases hentry : look o.input <;> simp_all [Entry.read]
          cases hbytes : Text.Utf8.decode bytes with
          | error failure => exact ⟨_, .refused (.notText hresolve hentry hbytes)⟩
          | ok text => exact exists_ends_of_scans ⟨hresolve, text, ⟨bytes, hentry, hbytes⟩, rfl⟩

/-- **A run ends by the rules**, and only by them. -/
theorem ends_iff {result : Except Abort Report} :
    Ends complain look a result ↔ runWith complain look a = result := by
  constructor
  · exact Ends.runWith_eq
  · rintro rfl
    obtain ⟨result, h⟩ := exists_ends complain look a
    rwa [h.runWith_eq]

end Lexis
