import Lexis.Options

/-!
# Command — the resolution of options

Where there are options for a run, and what is wrong where there are none.  The settings are those
in the text of the configuration, or none at all where it is no file (`Options.Configures`).  A
configuration fails by its path, its bytes or its text (`Options.settings_eq_error_iff`), and
settings fail by the start line before they fail by the format (`Options.merge_eq_error_iff`).
Where nothing fails, each option comes from its own layers (`Options.merge_eq_ok_iff`).
-/

namespace Lexis

/-- The file at a path holds a text. -/
def HoldsText (look : Path → Entry) (p : Path) (text : List Char) : Prop :=
  ∃ bytes, look p = .file bytes ∧ Text.Utf8.decode bytes = .ok text

theorem Format.ofName?_eq_some_iff {name : String} {format : Format} :
    ofName? name = some format ↔ name = format.name := by
  constructor
  · intro h
    rw [ofName?] at h
    have hfound := List.find?_some h
    exact (of_decide_eq_true hfound).symm
  · rintro rfl
    cases format <;> decide

theorem Format.name_inj {format format' : Format} :
    format.name = format'.name ↔ format = format' := by
  cases format <;> cases format' <;> decide

namespace Options

variable {look : Path → Entry} {a : Arguments} {s : Settings} {o : Options} {e : OptionsError}

/-! ### Settings -/

/-- The settings for a run: those of a configuration that is a file, and none where it is not. -/
inductive Configures (look : Path → Entry) (a : Arguments) : Settings → Prop
  | read {text : List Char} {config : Toml.Table} (htext : HoldsText look (configPath a) text)
      (hparse : Toml.parse text = .ok config) : Configures look a (.ofTable config)
  | absent (hfile : ∀ bytes, look (configPath a) ≠ .file bytes)
      (hlong : look (configPath a) ≠ .tooLong) : Configures look a .empty

theorem settings_eq_ok_iff :
    settings (configPath a) (look (configPath a)) = .ok s ↔ Configures look a s := by
  constructor
  · intro h
    cases hentry : look (configPath a) with
    | file bytes =>
        rw [hentry, settings, settingsOf] at h
        split at h
        · exact nomatch h
        · next text htext =>
            split at h
            · exact nomatch h
            · next config hparse =>
                obtain rfl := Except.ok.inj h
                exact .read ⟨bytes, hentry, htext⟩ hparse
    | tooLong =>
        rw [hentry] at h
        exact nomatch h
    | folder | vacant | nowhere | inFile | unnameable =>
        rw [hentry] at h
        obtain rfl := Except.ok.inj h
        exact .absent (by simp [hentry]) (by simp [hentry])
  · intro h
    cases h with
    | read htext hparse =>
        obtain ⟨bytes, hentry, htext⟩ := htext
        simp only [hentry, settings, settingsOf, htext, hparse]
    | absent hfile hlong =>
        cases hentry : look (configPath a) with
        | file bytes => exact absurd hentry (hfile bytes)
        | tooLong => exact absurd hentry hlong
        | folder | vacant | nowhere | inFile | unnameable => rfl

/-- **What is wrong with a configuration**: its path, its bytes or its text. -/
theorem settings_eq_error_iff :
    settings (configPath a) (look (configPath a)) = .error e ↔
      (look (configPath a) = .tooLong ∧ e = .abort (.file .nameTooLong (configPath a))) ∨
      (∃ bytes failure, look (configPath a) = .file bytes ∧
        Text.Utf8.decode bytes = .error failure ∧ e = .abort (.configNotText failure)) ∨
      (∃ text flaw, HoldsText look (configPath a) text ∧ Toml.parse text = .error flaw ∧
        e = .ofFlaw text flaw) := by
  constructor
  · intro h
    cases hentry : look (configPath a) with
    | file bytes =>
        rw [hentry, settings, settingsOf] at h
        split at h
        · next failure htext =>
            exact .inr (.inl ⟨bytes, failure, rfl, htext, (Except.error.inj h).symm⟩)
        · next text htext =>
            split at h
            · next flaw hparse =>
                exact .inr (.inr ⟨text, flaw, ⟨bytes, hentry, htext⟩, hparse,
                  (Except.error.inj h).symm⟩)
            · exact nomatch h
    | tooLong =>
        rw [hentry] at h
        exact .inl ⟨rfl, (Except.error.inj h).symm⟩
    | folder | vacant | nowhere | inFile | unnameable =>
        rw [hentry] at h
        exact nomatch h
  · rintro (⟨hentry, rfl⟩ | ⟨bytes, failure, hentry, htext, rfl⟩ |
      ⟨text, flaw, ⟨bytes, hentry, htext⟩, hparse, rfl⟩)
    · simp only [hentry, settings]
    · simp only [hentry, settings, settingsOf, htext]
    · simp only [hentry, settings, settingsOf, htext, hparse]

/-! ### Layers -/

/-- A flag that is given nothing is the only way to no start line. -/
theorem firstLine_eq_nothing_iff : firstLine a s = .nothing ↔ a.startLine = some .nothing := by
  rw [firstLine]
  cases a.startLine with
  | none => cases s.startLine <;> simp
  | some given => simp

/-- A value is a format where it is the name of one. -/
theorem readFormat_eq_some_iff {value : Toml.Value} {format : Format} :
    (Settings.string? value).bind Format.ofName? = some format ↔ value = .string format.name := by
  cases value <;> simp [Settings.string?, Format.ofName?_eq_some_iff]

theorem configFormat_eq_ok_iff {configured : Option Format} :
    configFormat s = .ok configured ↔
      s.format = configured.map fun format => .string format.name := by
  rw [configFormat]
  cases s.format with
  | none => cases configured <;> simp
  | some value =>
      cases hread : (Settings.string? value).bind Format.ofName? with
      | none =>
          have hother (other : Format) : value ≠ .string other.name := by
            rw [ne_eq, ← readFormat_eq_some_iff, hread]
            exact nofun
          cases configured <;> simp [hread, hother]
      | some format =>
          have hother (other : Format) : value = .string other.name ↔ format = other := by
            rw [← readFormat_eq_some_iff, hread, Option.some.injEq]
          cases configured <;> simp [hread, hother]

theorem configFormat_eq_error_iff :
    configFormat s = .error e ↔
      ∃ value, s.format = some value ∧ (∀ format : Format, value ≠ .string format.name) ∧
        e = .ofFormat value := by
  have hformat (value : Toml.Value) : (Settings.string? value).bind Format.ofName? = none ↔
      ∀ format : Format, value ≠ .string format.name := by
    simp only [Option.eq_none_iff_forall_ne_some, ne_eq, readFormat_eq_some_iff]
  rw [configFormat]
  cases s.format with
  | none => simp
  | some value =>
      cases hname : (Settings.string? value).bind Format.ofName? with
      | some format =>
          have hsome := mt (hformat value).mpr (by simp [hname])
          simpa [hname] using fun h => absurd h hsome
      | none => simpa [hname, eq_comm] using fun _ => (hformat value).mp hname

/-- **What is wrong with settings**: the start line, or else the format. -/
theorem merge_eq_error_iff :
    merge a s = .error e ↔
      (a.startLine = some .nothing ∧ e = .abort .noStartLine) ∨
      (∃ n, firstLine a s = .value n ∧
        (n < 1 ∧ e = .startLineBelowOne n ∨ 1 ≤ n ∧ configFormat s = .error e)) := by
  rw [merge, ← firstLine_eq_nothing_iff]
  cases hline : firstLine a s with
  | nothing => simp [checkLine, eq_comm]
  | value n =>
      rw [checkLine]
      by_cases hn : n < 1
      · simp [hn, eq_comm, Int.not_le.mpr hn]
      · rw [if_neg hn]
        cases configFormat s <;> simp [hn, Int.not_lt.mp hn]

theorem checkLine_eq_ok_iff {given : Given Int} {n : Int} :
    checkLine given = .ok n ↔ given = .value n ∧ 1 ≤ n := by
  cases given with
  | nothing => simp [checkLine]
  | value m =>
      rw [checkLine, Given.value.injEq]
      split
      · refine iff_of_false nofun ?_
        rintro ⟨rfl, hm⟩
        omega
      · next hm =>
          rw [Except.ok.injEq]
          refine (and_iff_left_of_imp ?_).symm
          rintro rfl
          omega

/-- **The options that settings make**, each by itself. -/
theorem merge_eq_ok_iff :
    merge a s = .ok o ↔
      firstLine a s = .value o.startLine ∧ 1 ≤ o.startLine ∧
      (∃ configured : Option Format,
        s.format = configured.map (fun format => .string format.name) ∧
        (a.format.or (configured.map .value)).getD (.value .text) = o.format) ∧
      (a.filename.or (s.filename.map .value)).getD (.value (Path.ofText a.input).text) =
        o.filename ∧
      o.input = .ofText a.input ∧ o.output = givenPath a.output ∧ o.verbose = a.verbose := by
  simp only [← configFormat_eq_ok_iff]
  constructor
  · intro h
    rw [merge] at h
    split at h
    · exact nomatch h
    · next startLine hline =>
        split at h
        · exact nomatch h
        · next configured hformat =>
            obtain ⟨hfirst, hpos⟩ := checkLine_eq_ok_iff.mp hline
            obtain rfl := Except.ok.inj h
            exact ⟨hfirst, hpos, ⟨configured, hformat, rfl⟩, rfl, rfl, rfl, rfl⟩
  · obtain ⟨input, output, filename, startLine, format, verbose⟩ := o
    rintro ⟨hfirst, hpos, ⟨configured, hconfigured, rfl⟩, rfl, rfl, rfl, rfl⟩
    have hline : checkLine (firstLine a s) = .ok startLine := checkLine_eq_ok_iff.mpr ⟨hfirst, hpos⟩
    simp only [merge, hline, hconfigured]

theorem resolve_of_configures (h : Configures look a s) : resolve look a = merge a s := by
  rw [resolve, settings_eq_ok_iff.mpr h]

/-- **There are options** where there are settings that make them. -/
theorem resolve_eq_ok_iff :
    resolve look a = .ok o ↔ ∃ s, Configures look a s ∧ merge a s = .ok o := by
  simp only [← settings_eq_ok_iff, resolve]
  cases settings (configPath a) (look (configPath a)) <;> simp

/-- **There are no options** where there are no settings, or where the settings are wrong. -/
theorem resolve_eq_error_iff :
    resolve look a = .error e ↔
      settings (configPath a) (look (configPath a)) = .error e ∨
      ∃ s, Configures look a s ∧ merge a s = .error e := by
  simp only [← settings_eq_ok_iff, resolve]
  cases settings (configPath a) (look (configPath a)) <;> simp

/-- The output of a run is the one that the arguments give. -/
theorem output_of_resolve (h : resolve look a = .ok o) : o.output = givenPath a.output := by
  obtain ⟨s, -, hmerge⟩ := resolve_eq_ok_iff.mp h
  exact (merge_eq_ok_iff.mp hmerge).2.2.2.2.2.1

end Options

end Lexis
