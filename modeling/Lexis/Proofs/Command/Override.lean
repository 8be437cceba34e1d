import Lexis.Proofs.Command.Precedence
import Lexis.Proofs.Lookup

/-!
# Command — entries that a flag overrides

A flag overrides one entry of a configuration (`Arguments.Overrides`), and configurations may
differ at that entry alone (`Toml.Table.AgreeBut`).  The start line and the name are looked at only
after the flags have been, so such configurations come to the same options or to the same error.  A
format is looked at before: one that is misnamed (`Options.Misnames`) is refused also where a flag
overrides it (`Options.resolve_misnamed`).

That is the only exception (`Options.resolve_overridden`): **the start line that counts and the
configured format decide whether there are options**, and what is wrong where there are none.
-/

namespace Lexis

/-- A flag is given in the place of an entry of the configuration. -/
inductive Arguments.Overrides (a : Arguments) : (part name : String) → Prop
  | startLine {given : Given Int} (h : a.startLine = some given) : Overrides a "scan" "start_line"
  | filename {given : Given String} (h : a.filename = some given) : Overrides a "scan" "filename"
  | format {given : Given Format} (h : a.format = some given) : Overrides a "output" "format"

/-! ### Configurations that agree but for one entry -/

namespace Toml.Table

/-- Two configurations differ at most at one entry of one part. -/
def AgreeBut (part name : String) (config config' : Toml.Table) : Prop :=
  ∀ part' name', (part', name') ≠ (part, name) →
    ∀ value, config.HasEntry part' name' value ↔ config'.HasEntry part' name' value

theorem hasEntry_singleton_iff {part name part' name' : String} {value value' : Value} :
    HasEntry [(part, .table [(name, value)])] part' name' value' ↔
      (part', name') = (part, name) ∧ value' = value := by
  have hlookup {α : Type} (key key' : String) (a : α) :
      [(key, a)].lookup key' = if key' = key then some a else none :=
    lookup_set [] key key' a
  simp only [HasEntry, hlookup, Option.ite_none_right_eq_some, Option.some.injEq, Prod.mk.injEq]
  constructor
  · rintro ⟨entries, ⟨rfl, hentries⟩, hvalue⟩
    obtain rfl := Value.table.inj hentries
    rw [hlookup, Option.ite_none_right_eq_some, Option.some.injEq] at hvalue
    exact ⟨⟨rfl, hvalue.1⟩, hvalue.2.symm⟩
  · rintro ⟨⟨rfl, rfl⟩, rfl⟩
    exact ⟨_, ⟨rfl, rfl⟩, by rw [hlookup, if_pos rfl]⟩

theorem agreeBut_singleton (part name : String) (value value' : Value) :
    AgreeBut part name [(part, .table [(name, value)])] [(part, .table [(name, value')])] := by
  intro part' name' hother other
  rw [hasEntry_singleton_iff, hasEntry_singleton_iff]
  exact iff_of_false (fun h => hother h.1) (fun h => hother h.1)

end Toml.Table

/-- A document with one entry, which is a text, is known by its names and that text. -/
theorem Toml.parse_eq_singleton {text : List Char} {part name value : String}
    (h : (match Toml.parse text with
      | .ok [(part', .table [(name', .string value')])] =>
        decide ((part', name', value') = (part, name, value))
      | _ => false) = true) :
    Toml.parse text = .ok [(part, .table [(name, .string value)])] := by
  split at h
  · next hparse =>
      obtain ⟨rfl, rfl, rfl⟩ := of_decide_eq_true h
      exact hparse
  · exact nomatch h

namespace Settings

variable {part name : String} {config config' : Toml.Table}

theorem startLine_ofTable_of_agreeBut (h : config.AgreeBut part name config')
    (hother : ("scan", "start_line") ≠ (part, name)) :
    (ofTable config).startLine = (ofTable config').startLine :=
  Option.ext fun n => by rw [startLine_ofTable, startLine_ofTable, h _ _ hother]

theorem filename_ofTable_of_agreeBut (h : config.AgreeBut part name config')
    (hother : ("scan", "filename") ≠ (part, name)) :
    (ofTable config).filename = (ofTable config').filename :=
  Option.ext fun name => by rw [filename_ofTable, filename_ofTable, h _ _ hother]

theorem format_ofTable_of_agreeBut (h : config.AgreeBut part name config')
    (hother : ("output", "format") ≠ (part, name)) :
    (ofTable config).format = (ofTable config').format :=
  Option.ext fun value => by rw [format_ofTable, format_ofTable, h _ _ hother]

end Settings

namespace Options

variable {look look' : Path → Entry} {a : Arguments} {s s' : Settings} {config config' : Toml.Table}
  {e : OptionsError}

/-! ### Settings behind a flag -/

/-- Settings that differ in a start line or a name that a flag overrides make the same options. -/
theorem merge_congr (hline : firstLine a s = firstLine a s')
    (hname : a.filename.or (s.filename.map .value) = a.filename.or (s'.filename.map .value))
    (hformat : s.format = s'.format) : merge a s = merge a s' := by
  have hconfigured : configFormat s = configFormat s' := by
    rw [configFormat, configFormat, hformat]
  rw [merge, merge, hline, hconfigured, hname]

/-- Settings that differ in a format that a flag overrides make the same options, or one of them is
wrong by its format. -/
theorem merge_of_format {given : Given Format} (hflag : a.format = some given)
    (hline : s.startLine = s'.startLine) (hname : s.filename = s'.filename) :
    merge a s = merge a s' ∨
      (∃ e, configFormat s = .error e ∧ merge a s = .error e) ∨
      ∃ e, configFormat s' = .error e ∧ merge a s' = .error e := by
  have hfirst : firstLine a s = firstLine a s' := by rw [firstLine, firstLine, hline]
  rw [merge, merge, hfirst, hname, hflag]
  -- a wrong start line stops both before either format is looked at
  cases checkLine (firstLine a s') with
  | error e => exact .inl rfl
  | ok startLine =>
      cases configFormat s with
      | error e => exact .inr (.inl ⟨e, rfl, rfl⟩)
      | ok configured =>
          cases configFormat s' with
          | error e => exact .inr (.inr ⟨e, rfl, rfl⟩)
          | ok configured' => exact .inl rfl

/-! ### What is wrong with a configuration -/

/-- The start line that counts, after all layers. -/
def StartsAt (a : Arguments) (config : Toml.Table) (n : Int) : Prop :=
  Layered a.startLine (fun n => config.HasEntry "scan" "start_line" (.integer n)) 1 (.value n)

/-- A configuration has a value in the place of a format that is not the name of one. -/
def Misnames (config : Toml.Table) (value : Toml.Value) : Prop :=
  config.HasEntry "output" "format" value ∧ ∀ format : Format, value ≠ .string format.name

theorem firstLine_ofTable_eq_iff {n : Int} :
    firstLine a (.ofTable config) = .value n ↔ StartsAt a config n :=
  (layered_iff fun _ => Settings.startLine_ofTable).symm

theorem configFormat_ofTable_eq_error_iff :
    configFormat (.ofTable config) = .error e ↔
      ∃ value, Misnames config value ∧ e = .ofFormat value := by
  simp only [configFormat_eq_error_iff, Settings.format_ofTable, Misnames, and_assoc]

/-- **What is wrong with a configuration**: the start line that counts, or else the format that is
configured, whether it counts or not. -/
theorem merge_ofTable_eq_error_iff :
    merge a (.ofTable config) = .error e ↔
      (a.startLine = some .nothing ∧ e = .abort .noStartLine) ∨
      (∃ n, StartsAt a config n ∧ n < 1 ∧ e = .startLineBelowOne n) ∨
      ∃ n value, StartsAt a config n ∧ 1 ≤ n ∧ Misnames config value ∧ e = .ofFormat value := by
  simp only [merge_eq_error_iff, firstLine_ofTable_eq_iff, configFormat_ofTable_eq_error_iff]
  refine or_congr_right ⟨?_, ?_⟩
  · rintro ⟨n, hstart, ⟨hbelow, he⟩ | ⟨habove, value, hvalue, he⟩⟩
    · exact .inl ⟨n, hstart, hbelow, he⟩
    · exact .inr ⟨n, value, hstart, habove, hvalue, he⟩
  · rintro (⟨n, hstart, hbelow, he⟩ | ⟨n, value, hstart, habove, hvalue, he⟩)
    · exact ⟨n, hstart, .inl ⟨hbelow, he⟩⟩
    · exact ⟨n, hstart, .inr ⟨habove, value, hvalue, he⟩⟩

theorem resolve_of_loads (h : Loads look a config) : resolve look a = merge a (.ofTable config) :=
  resolve_of_configures (configures_iff.mpr ⟨config, h, rfl⟩)

/-- Configurations that differ at an entry that a flag overrides come to the same, or one of them
has a format that is misnamed. -/
theorem merge_of_overrides {part name : String} (hflag : a.Overrides part name)
    (hagree : config.AgreeBut part name config') :
    merge a (.ofTable config) = merge a (.ofTable config') ∨
      part = "output" ∧ ∃ value,
        Misnames config value ∧ merge a (.ofTable config) = .error (.ofFormat value) ∨
        Misnames config' value ∧ merge a (.ofTable config') = .error (.ofFormat value) := by
  cases hflag with
  | startLine hflag =>
      have hname := Settings.filename_ofTable_of_agreeBut hagree (by decide)
      have hformat := Settings.format_ofTable_of_agreeBut hagree (by decide)
      have hfirst : firstLine a (.ofTable config) = firstLine a (.ofTable config') := by
        rw [firstLine, firstLine, hflag, Option.some_or, Option.some_or]
      exact .inl (merge_congr hfirst (by rw [hname]) hformat)
  | filename hflag =>
      have hline := Settings.startLine_ofTable_of_agreeBut hagree (by decide)
      have hformat := Settings.format_ofTable_of_agreeBut hagree (by decide)
      have hfirst : firstLine a (.ofTable config) = firstLine a (.ofTable config') := by
        rw [firstLine, firstLine, hline]
      exact .inl (merge_congr hfirst (by rw [hflag, Option.some_or, Option.some_or]) hformat)
  | format hflag =>
      have hline := Settings.startLine_ofTable_of_agreeBut hagree (by decide)
      have hname := Settings.filename_ofTable_of_agreeBut hagree (by decide)
      rcases merge_of_format hflag hline hname with hsame | ⟨e, hformat, he⟩ | ⟨e, hformat, he⟩
      · exact .inl hsame
      · obtain ⟨value, hvalue, rfl⟩ := configFormat_ofTable_eq_error_iff.mp hformat
        exact .inr ⟨rfl, value, .inl ⟨hvalue, he⟩⟩
      · obtain ⟨value, hvalue, rfl⟩ := configFormat_ofTable_eq_error_iff.mp hformat
        exact .inr ⟨rfl, value, .inr ⟨hvalue, he⟩⟩

/-- **A flag masks the entry that it overrides.**  Configurations that differ at that entry alone
come to the same options or to the same error, but that a misnamed format is refused under its flag
too.  Unless the flag of the start line is given nothing, there are no options exactly where the
start line that counts is below one, or else the configured format is misnamed. -/
theorem resolve_overridden (a : Arguments) :
    (∀ part name, a.Overrides part name → ∀ look look' config config',
      Loads look a config → Loads look' a config' → config.AgreeBut part name config' →
        resolve look a = resolve look' a ∨
          part = "output" ∧ ∃ value,
            Misnames config value ∧ resolve look a = .error (.ofFormat value) ∨
            Misnames config' value ∧ resolve look' a = .error (.ofFormat value)) ∧
      (a.startLine ≠ some .nothing → ∀ look config, Loads look a config → ∀ e,
        resolve look a = .error e ↔
          (∃ n, StartsAt a config n ∧ n < 1 ∧ e = .startLineBelowOne n) ∨
          ∃ n value, StartsAt a config n ∧ 1 ≤ n ∧ Misnames config value ∧
            e = .ofFormat value) := by
  constructor
  · intro part name hflag look look' config config' hloads hloads' hagree
    rw [resolve_of_loads hloads, resolve_of_loads hloads']
    exact merge_of_overrides hflag hagree
  · intro hgiven look config hloads e
    rw [resolve_of_loads hloads, merge_ofTable_eq_error_iff]
    exact or_iff_right fun h => hgiven h.1

theorem loads_of_parse (text : String) {config : Toml.Table}
    (hlook : look (configPath a) = .file (Text.Utf8.encode text.toList))
    (hparse : Toml.parse text.toList = .ok config) : Loads look a config :=
  .read ⟨_, hlook, Text.Utf8.decode_encode _⟩ hparse

/-- Under two flags: names that a flag overrides do not count, and a start line that counts is below
one. -/
theorem resolve_overridden_name :
    let text (name : String) := "[scan]\nfilename = '" ++ name ++ "'\n"
    let t (name : String) : FileTree :=
      ⟨[(["work", "glscan.toml"], Text.Utf8.encode (text name).toList)], [], ["work"]⟩
    let a : Arguments := ⟨"in", none, none, some (.value 0), some (.value "c"), none, false⟩
    resolve (t "a").entry a = resolve (t "b").entry a ∧
      resolve (t "a").entry a = .error (.startLineBelowOne 0) := by
  intro text t a
  let config (name : String) : Toml.Table := [("scan", .table [("filename", .string name)])]
  have hloads : Loads (t "a").entry a (config "a") :=
    loads_of_parse (text "a") (by decide +kernel) (Toml.parse_eq_singleton (by decide +kernel))
  have hloads' : Loads (t "b").entry a (config "b") :=
    loads_of_parse (text "b") (by decide +kernel) (Toml.parse_eq_singleton (by decide +kernel))
  obtain ⟨hsame, herror⟩ := resolve_overridden a
  constructor
  -- the exception is for a format alone
  · refine (hsame _ _ (.filename rfl) _ _ _ _ hloads hloads'
      (Toml.Table.agreeBut_singleton _ _ _ _)).resolve_right ?_
    rintro ⟨hpart, -⟩
    exact absurd hpart (by decide)
  · exact (herror (by simp [a]) _ _ hloads _).mpr (.inl ⟨0, .flag rfl, by decide, rfl⟩)

/-- Under its flag a misnamed format is refused, and one that is named is not. -/
theorem resolve_misnamed :
    let text (format : String) := "[output]\nformat = '" ++ format ++ "'\n"
    let t (format : String) : FileTree :=
      ⟨[(["work", "glscan.toml"], Text.Utf8.encode (text format).toList)], [], ["work"]⟩
    let a : Arguments := ⟨"in", none, none, none, none, some (.value .text), false⟩
    let config (format : String) : Toml.Table := [("output", .table [("format", .string format)])]
    Loads (t "xml").entry a (config "xml") ∧ Loads (t "json").entry a (config "json") ∧
      a.Overrides "output" "format" ∧ (config "xml").AgreeBut "output" "format" (config "json") ∧
      resolve (t "xml").entry a = .error (.ofFormat (.string "xml")) ∧
      ∃ o, resolve (t "json").entry a = .ok o ∧ o.startLine = 1 ∧ o.format = .value .text := by
  intro text t a config
  have hloads : Loads (t "xml").entry a (config "xml") :=
    loads_of_parse (text "xml") (by decide +kernel) (Toml.parse_eq_singleton (by decide +kernel))
  have hloads' : Loads (t "json").entry a (config "json") :=
    loads_of_parse (text "json") (by decide +kernel) (Toml.parse_eq_singleton (by decide +kernel))
  refine ⟨hloads, hloads', .format rfl, Toml.Table.agreeBut_singleton _ _ _ _, ?_, ?_⟩
  · rw [resolve_of_loads hloads]
    rfl
  · rw [resolve_of_loads hloads']
    exact ⟨_, rfl, rfl, rfl⟩

end Options

end Lexis
