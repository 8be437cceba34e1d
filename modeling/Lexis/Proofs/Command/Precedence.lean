import Lexis.Proofs.Command.Resolution
import Lexis.Proofs.Command.Written

/-!
# Command — the layers of options

Where an option comes from: its flag, or else the configuration, or else a default (`Layered`).  Of
a configuration an option sees one entry of one part, if the part is a table and the entry has the
right type (`Toml.Table.HasEntry`).  The options for a run are the ones that its arguments and its
configuration make in this way (`Options.resolve_eq_ok_iff_layers`).

So configurations that agree on three entries make the same options, and none but the file that is
named counts (`Options.resolve_precedence`).
-/

namespace Lexis

/-! ### Layers -/

section

variable {α : Type}

/-- An option is what its flag is given, or else a value that is configured, or else a default. -/
inductive Layered (flag : Option (Given α)) (Configured : α → Prop) (default : α) :
    Given α → Prop
  | flag {given : Given α} (hflag : flag = some given) : Layered flag Configured default given
  | config {value : α} (hflag : flag = none) (hvalue : Configured value) :
      Layered flag Configured default (.value value)
  | default (hflag : flag = none) (hvalue : ∀ value, ¬ Configured value) :
      Layered flag Configured default (.value default)

theorem layered_iff {flag : Option (Given α)} {Configured : α → Prop} {default : α}
    {configured : Option α} (h : ∀ value, configured = some value ↔ Configured value)
    {given : Given α} :
    Layered flag Configured default given ↔
      (flag.or (configured.map .value)).getD (.value default) = given := by
  constructor
  · intro hlayered
    cases hlayered with
    | flag hflag => rw [hflag, Option.some_or, Option.getD_some]
    | config hflag hvalue =>
        rw [hflag, (h _).mpr hvalue, Option.none_or, Option.map_some, Option.getD_some]
    | default hflag hvalue =>
        have hnone : configured = none :=
          Option.eq_none_iff_forall_ne_some.mpr fun value hsome => hvalue value ((h value).mp hsome)
        rw [hflag, hnone, Option.none_or, Option.map_none, Option.getD_none]
  · rintro rfl
    cases flag with
    | some given => exact .flag rfl
    | none =>
        cases configured with
        | some value => exact .config rfl ((h value).mp rfl)
        | none => exact .default rfl fun value hvalue => nomatch (h value).mpr hvalue

end

/-! ### Entries of a configuration -/

/-- A configuration has a value at an entry of one of its parts, which is a table. -/
def Toml.Table.HasEntry (config : Toml.Table) (part name : String) (value : Toml.Value) : Prop :=
  ∃ entries, config.lookup part = some (.table entries) ∧ entries.lookup name = some value

theorem Toml.Table.hasEntry_iff {config : Toml.Table} {part name : String} {value : Toml.Value} :
    ((config.table? part).bind fun entries => entries.lookup name) = some value ↔
      config.HasEntry part name value := by
  have htable (entries : Toml.Table) :
      config.table? part = some entries ↔ config.lookup part = some (.table entries) := by
    rw [table?]
    split <;> simp_all
  simp only [Option.bind_eq_some_iff, htable, HasEntry]

theorem Toml.Table.not_hasEntry_nil {part name : String} {value : Toml.Value} :
    ¬ HasEntry [] part name value := by
  rintro ⟨_, hpart, -⟩
  exact nomatch hpart

namespace Settings

variable {config config' : Toml.Table}

/-- The start line counts where it is an integer. -/
theorem startLine_ofTable {n : Int} :
    (ofTable config).startLine = some n ↔ config.HasEntry "scan" "start_line" (.integer n) := by
  have hinteger (value : Toml.Value) : integer? value = some n ↔ value = .integer n := by
    cases value <;> simp [integer?]
  simp only [ofTable, ← Option.bind_assoc, Option.bind_eq_some_iff (f := integer?),
    Toml.Table.hasEntry_iff, hinteger, exists_eq_right]

/-- The name counts where it is a text. -/
theorem filename_ofTable {name : String} :
    (ofTable config).filename = some name ↔ config.HasEntry "scan" "filename" (.string name) := by
  have hstring (value : Toml.Value) : string? value = some name ↔ value = .string name := by
    cases value <;> simp [string?]
  simp only [ofTable, ← Option.bind_assoc, Option.bind_eq_some_iff (f := string?),
    Toml.Table.hasEntry_iff, hstring, exists_eq_right]

/-- The format counts whatever it is. -/
theorem format_ofTable {value : Toml.Value} :
    (ofTable config).format = some value ↔ config.HasEntry "output" "format" value :=
  Toml.Table.hasEntry_iff

/-- Two configurations agree on the entries that count. -/
structure Agree (config config' : Toml.Table) : Prop where
  startLine : ∀ n, config.HasEntry "scan" "start_line" (.integer n) ↔
    config'.HasEntry "scan" "start_line" (.integer n)
  filename  : ∀ name, config.HasEntry "scan" "filename" (.string name) ↔
    config'.HasEntry "scan" "filename" (.string name)
  format    : ∀ value, config.HasEntry "output" "format" value ↔
    config'.HasEntry "output" "format" value

/-- **Configurations agree when they have the same settings.** -/
theorem agree_iff : Agree config config' ↔ ofTable config = ofTable config' := by
  constructor
  · intro h
    have hstart : (ofTable config).startLine = (ofTable config').startLine :=
      Option.ext fun n => by rw [startLine_ofTable, startLine_ofTable, h.startLine]
    have hname : (ofTable config).filename = (ofTable config').filename :=
      Option.ext fun name => by rw [filename_ofTable, filename_ofTable, h.filename]
    have hformat : (ofTable config).format = (ofTable config').format :=
      Option.ext fun value => by rw [format_ofTable, format_ofTable, h.format]
    exact (Settings.mk.injEq ..).mpr ⟨hstart, hname, hformat⟩
  · intro h
    exact {
      startLine := fun n => by rw [← startLine_ofTable, h, startLine_ofTable]
      filename  := fun name => by rw [← filename_ofTable, h, filename_ofTable]
      format    := fun value => by rw [← format_ofTable, h, format_ofTable] }

end Settings

/-! ### The options for a run -/

namespace Options

variable {look look' : Path → Entry} {a : Arguments} {config : Toml.Table} {o : Options}

/-- The configuration for a run: what the file of it says, or nothing where there is no file. -/
inductive Loads (look : Path → Entry) (a : Arguments) : Toml.Table → Prop
  | read {text : List Char} {config : Toml.Table} (htext : HoldsText look (configPath a) text)
      (hparse : Toml.parse text = .ok config) : Loads look a config
  | absent (hfile : ∀ bytes, look (configPath a) ≠ .file bytes)
      (hlong : look (configPath a) ≠ .tooLong) : Loads look a []

theorem configures_iff {s : Settings} :
    Configures look a s ↔ ∃ config, Loads look a config ∧ s = .ofTable config := by
  constructor
  · rintro (⟨htext, hparse⟩ | ⟨hfile, hlong⟩)
    · exact ⟨_, .read htext hparse, rfl⟩
    · exact ⟨[], .absent hfile hlong, rfl⟩
  · rintro ⟨config, ⟨htext, hparse⟩ | ⟨hfile, hlong⟩, rfl⟩
    · exact .read htext hparse
    · exact .absent hfile hlong

/-- The options that arguments and a configuration make: three in layers, and the others by the
arguments alone.  A configured format has to be the name of one, also where it does not count. -/
structure Layers (a : Arguments) (config : Toml.Table) (o : Options) : Prop where
  startLine : Layered a.startLine (fun n => config.HasEntry "scan" "start_line" (.integer n)) 1
    (.value o.startLine)
  positive  : 1 ≤ o.startLine
  filename  : Layered a.filename (fun name => config.HasEntry "scan" "filename" (.string name))
    (Path.ofText a.input).text o.filename
  format    : Layered a.format
    (fun format : Format => config.HasEntry "output" "format" (.string format.name)) .text o.format
  formats   : ∀ value, config.HasEntry "output" "format" value →
    ∃ format : Format, value = .string format.name
  input     : o.input = .ofText a.input
  output    : o.output = givenPath a.output
  verbose   : o.verbose = a.verbose

/-- **The settings of a configuration make options by layers.** -/
theorem merge_ofTable_eq_ok_iff : merge a (.ofTable config) = .ok o ↔ Layers a config o := by
  rw [merge_eq_ok_iff]
  -- the format that is configured, if all that is configured as one is the name of one
  have hconfigured {configured : Option Format} (h : (Settings.ofTable config).format =
      configured.map fun format => .string format.name) (format : Format) :
      configured = some format ↔
        config.HasEntry "output" "format" (.string format.name) := by
    rw [← Settings.format_ofTable, h]
    cases configured <;> simp [Format.name_inj]
  constructor
  · rintro ⟨hline, hpos, ⟨configured, hformat, hresult⟩, hfilename, hinput, houtput, hverbose⟩
    exact {
      startLine := (layered_iff fun _ => Settings.startLine_ofTable).mpr hline
      positive  := hpos
      filename  := (layered_iff fun _ => Settings.filename_ofTable).mpr hfilename
      format    := (layered_iff (hconfigured hformat)).mpr hresult
      formats   := fun value hvalue => by
        rw [← Settings.format_ofTable, hformat, Option.map_eq_some_iff] at hvalue
        obtain ⟨format, -, hvalue⟩ := hvalue
        exact ⟨format, hvalue.symm⟩
      input     := hinput
      output    := houtput
      verbose   := hverbose }
  · intro h
    obtain ⟨configured, hformat⟩ : ∃ configured : Option Format,
        (Settings.ofTable config).format = configured.map fun format => .string format.name := by
      cases hvalue : (Settings.ofTable config).format with
      | none => exact ⟨none, rfl⟩
      | some value =>
          obtain ⟨format, rfl⟩ := h.formats value (Settings.format_ofTable.mp hvalue)
          exact ⟨some format, rfl⟩
    exact ⟨(layered_iff fun _ => Settings.startLine_ofTable).mp h.startLine, h.positive,
      ⟨configured, hformat, (layered_iff (hconfigured hformat)).mp h.format⟩,
      (layered_iff fun _ => Settings.filename_ofTable).mp h.filename, h.input, h.output, h.verbose⟩

/-- **The options for a run** are those that its arguments make over its configuration. -/
theorem resolve_eq_ok_iff_layers :
    resolve look a = .ok o ↔ ∃ config, Loads look a config ∧ Layers a config o := by
  rw [resolve_eq_ok_iff]
  simp only [configures_iff, ← merge_ofTable_eq_ok_iff]
  constructor
  · rintro ⟨_, ⟨config, hloads, rfl⟩, hmerge⟩
    exact ⟨config, hloads, hmerge⟩
  · rintro ⟨config, hloads, hmerge⟩
    exact ⟨_, ⟨config, hloads, rfl⟩, hmerge⟩

/-- A flag that is given nothing is the only way to a format that is none. -/
theorem Layers.format_eq_nothing_iff (h : Layers a config o) :
    o.format = .nothing ↔ a.format = some .nothing := by
  have hformat := h.format
  generalize o.format = format at hformat
  cases hformat with
  | flag hflag => simp [hflag]
  | config hflag | default hflag => simp [hflag]

/-- Configurations that agree come to the same. -/
theorem resolve_congr_of_agree {config' : Toml.Table} (h : Loads look a config)
    (h' : Loads look' a config') (hagree : Settings.Agree config config') :
    resolve look a = resolve look' a := by
  rw [resolve_of_configures (configures_iff.mpr ⟨config, h, rfl⟩),
    resolve_of_configures (configures_iff.mpr ⟨config', h', rfl⟩), Settings.agree_iff.mp hagree]

theorem settings_of_isOff {entry : Entry} (h : entry.IsOff) (p : Path) :
    settings p entry = .ok .empty := by
  rcases h with rfl | rfl <;> rfl

/-- A configuration that is not the one of a run does not count. -/
theorem resolve_of_write {p : Path} {t after : FileTree} {bytes : List UInt8}
    (hconfig : givenPath a.config = some p) (hwrite : t.write (configBeside a) bytes = .ok after)
    (hoff : t.locate p ≠ t.locate (configBeside a)) :
    resolve after.entry a = resolve t.entry a := by
  have hpath : configPath a = p := by rw [configPath, hconfig, Option.getD_some]
  have hsettings : settings p (after.entry p) = settings p (t.entry p) := by
    rcases FileTree.entry_of_write (by decide) hwrite hoff with hentry | ⟨hends, hends'⟩
    · rw [hentry]
    · rw [settings_of_isOff hends, settings_of_isOff hends']
  rw [resolve, resolve, hpath, hsettings]

/-- **The precedence of options.**  There are options for a run when its configuration is loaded and
makes them, with its arguments, by layers; a format is then no format only where its flag is given
nothing.  Configurations that agree on the entries that count come to the same.  Where the arguments
name a configuration, what is written to the one beside the input does not count, unless it is the
same file. -/
theorem resolve_precedence (a : Arguments) :
    (∀ look o, resolve look a = .ok o ↔ ∃ config, Loads look a config ∧ Layers a config o) ∧
      (∀ look o, resolve look a = .ok o → (o.format = .nothing ↔ a.format = some .nothing)) ∧
      (∀ look look' config config', Loads look a config → Loads look' a config' →
        Settings.Agree config config' → resolve look a = resolve look' a) ∧
      (∀ p, givenPath a.config = some p → ∀ (t after : FileTree) (bytes : List UInt8),
        t.write (configBeside a) bytes = .ok after → t.locate p ≠ t.locate (configBeside a) →
          resolve after.entry a = resolve t.entry a) := by
  refine ⟨fun look o => resolve_eq_ok_iff_layers, fun look o h => ?_,
    fun look look' config config' => resolve_congr_of_agree,
    fun p hconfig t after bytes => resolve_of_write hconfig⟩
  obtain ⟨config, -, hlayers⟩ := resolve_eq_ok_iff_layers.mp h
  exact hlayers.format_eq_nothing_iff

/-- A format flag that is given nothing gives no format.  A part that is no table counts as none,
and so does a configuration beside the input. -/
theorem resolve_precedence_nothing :
    let input := (["work", "in"], Text.Utf8.encode "x".toList)
    let named := Text.Utf8.encode "scan = 7\n[output]\n".toList
    let t : FileTree := ⟨[input, (["work", "named"], named)], [], ["work"]⟩
    let a : Arguments := ⟨"in", none, some (.value "named"), none, none, some .nothing, false⟩
    ∃ o after, resolve t.entry a = .ok o ∧ o.startLine = 1 ∧ o.format = .nothing ∧
      resolve (FileTree.entry ⟨[input], [], ["work"]⟩) a = .ok o ∧
      t.write (configBeside a) [0] = .ok after ∧ resolve after.entry a = .ok o := by
  intro input named t a
  obtain ⟨hlayers, hformat, hagree, hbeside⟩ := resolve_precedence a
  obtain ⟨config, hparse, hnothing⟩ : ∃ config,
      Toml.parse "scan = 7\n[output]\n".toList = .ok config ∧ Settings.Agree config [] := by
    have hread : ((Toml.parse "scan = 7\n[output]\n".toList).toOption.map fun config =>
        ((Settings.ofTable config).startLine, (Settings.ofTable config).filename,
          (Settings.ofTable config).format.isNone)) = some (none, none, true) := by
      decide +kernel
    cases hparse : Toml.parse "scan = 7\n[output]\n".toList with
    | error flaw =>
        rw [hparse] at hread
        exact nomatch hread
    | ok config =>
        rw [hparse] at hread
        simp only [Except.toOption, Option.map_some, Option.some.injEq, Prod.mk.injEq,
          Option.isNone_iff_eq_none] at hread
        exact ⟨config, rfl, Settings.agree_iff.mpr ((Settings.mk.injEq ..).mpr hread)⟩
  have hloads : Loads t.entry a config :=
    .read ⟨named, by decide +kernel, Text.Utf8.decode_encode _⟩ hparse
  have habsent : Loads (FileTree.entry ⟨[input], [], ["work"]⟩) a [] := by
    have hvacant : FileTree.entry ⟨[input], [], ["work"]⟩ (configPath a) = .vacant := by
      decide +kernel
    exact .absent (by simp [hvacant]) (by simp [hvacant])
  have hnone : resolve (FileTree.entry ⟨[input], [], ["work"]⟩) a =
      .ok ⟨.ofText "in", none, .value (Path.ofText "in").text, 1, .nothing, false⟩ :=
    (hlayers _ _).mpr ⟨[], habsent, {
      startLine := .default rfl fun _ => Toml.Table.not_hasEntry_nil
      positive  := Int.le_refl 1
      filename  := .default rfl fun _ => Toml.Table.not_hasEntry_nil
      format    := .flag rfl
      formats   := fun _ h => absurd h Toml.Table.not_hasEntry_nil
      input     := rfl
      output    := rfl
      verbose   := rfl }⟩
  have hresolve := (hagree _ _ _ _ hloads habsent hnothing).trans hnone
  have hfree : (t.entry (configBeside a)).obstacle? = none := by decide +kernel
  obtain ⟨after, hwrite, -⟩ := FileTree.exists_write hfree [0]
  exact ⟨_, after, hresolve, rfl, (hformat _ _ hresolve).mpr rfl, hnone, hwrite,
    (hbeside _ rfl t after [0] hwrite (by decide +kernel)).trans hresolve⟩

end Options

end Lexis
