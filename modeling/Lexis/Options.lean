import Lexis.Abort
import Lexis.Arguments.Basic
import Lexis.Toml.Parser
import Lexis.Toml.Shown

/-!
# Options

What a run is to do, from three layers: defaults, the settings of a configuration file, and the
arguments, each over the one before.  Of a configuration only three entries count, and only where
they are of the right type (`Settings`).  A start line below one is refused whichever layer it is
from; a format that does not exist is refused in the configuration even where the arguments give
another.

A flag that is given nothing still overrides the settings, if it is one of those that settings have:
the name is then shown as brackets, the format is the text, and there is no start line at all, which
aborts the run.  For the configuration and the output, nothing is the same as no flag.
-/

namespace Lexis

/-- What a run is to do. -/
structure Options where
  input     : Path
  output    : Option Path
  filename  : Given String
  startLine : Int
  format    : Given Format
  verbose   : Bool
  deriving DecidableEq, Repr

/-! ### Settings -/

/-- The entries of a configuration that count. -/
structure Settings where
  startLine : Option Int
  filename  : Option String
  /-- A format by its name, or whatever stands in its place. -/
  format    : Option Toml.Value
  deriving Repr

namespace Settings

/-- No settings. -/
def empty : Settings := ⟨none, none, none⟩

/-- A value, where it is an integer. -/
def integer? : Toml.Value → Option Int
  | .integer n => some n
  | _          => none

/-- A value, where it is a text. -/
def string? : Toml.Value → Option String
  | .string text => some text
  | _            => none

/-- The settings in a configuration. -/
def ofTable (config : Toml.Table) : Settings where
  startLine := (config.table? "scan").bind fun scan => (scan.lookup "start_line").bind integer?
  filename  := (config.table? "scan").bind fun scan => (scan.lookup "filename").bind string?
  format    := (config.table? "output").bind fun output => output.lookup "format"

end Settings

/-! ### Errors -/

/-- Why there are no options for a run. -/
inductive OptionsError where
  /-- The text of the configuration is not TOML. -/
  | configNotToml (text : List Char)
  | startLineBelowOne (startLine : Int)
  | noSuchFormat (value : Toml.Value)
  /-- A mishap that ends the run. -/
  | abort (mishap : Abort)
  deriving Repr

namespace OptionsError

/-- What a flaw in the text of the configuration comes to. -/
def ofFlaw (text : List Char) : Toml.Flaw → OptionsError
  | .malformed           => .configNotToml text
  | .tooManyDigits count => .abort (.configTooManyDigits count)
  | .tooDeep             => .abort .configTooDeep

/-- What a value that is no format comes to. -/
def ofFormat (value : Toml.Value) : OptionsError :=
  if Toml.Value.depthLimit < value.depth then .abort .formatTooDeep
  else if value.isWritable then .noSuchFormat value
  else .abort .numberTooLong

/-- What is wrong, in words; of a text that is not TOML, in the words that a parser has for it. -/
def message (complain : List Char → String) : OptionsError → String
  | .configNotToml text          => "invalid config file: " ++ complain text
  | .startLineBelowOne startLine => "start line must be at least 1: " ++ Text.integer startLine
  | .noSuchFormat value          =>
    "invalid output format in config: " ++ String.ofList value.shown
  | .abort mishap                => mishap.message

end OptionsError

/-! ### Resolution -/

namespace Options

/-- The path that a flag gives, which an empty value does not. -/
def givenPath : Option (Given String) → Option Path
  | some (.value name) => if name = "" then none else some (.ofText name)
  | _                  => none

/-- The configuration file in the folder of the input. -/
def configBeside (a : Arguments) : Path :=
  (Path.ofText a.input).parent.child "glscan.toml"

/-- The configuration file: the one that the arguments name, or else the one beside the input. -/
def configPath (a : Arguments) : Path :=
  (givenPath a.config).getD (configBeside a)

/-- The settings in the bytes of a configuration. -/
def settingsOf (bytes : List UInt8) : Except OptionsError Settings :=
  match Text.Utf8.decode bytes with
  | .error failure => .error (.abort (.configNotText failure))
  | .ok text =>
    match Toml.parse text with
    | .error flaw => .error (.ofFlaw text flaw)
    | .ok config  => .ok (.ofTable config)

/-- The settings in a configuration file; none where no file is there.  A name that is too long
keeps it unknown whether one is. -/
def settings (p : Path) : Entry → Except OptionsError Settings
  | .file bytes => settingsOf bytes
  | .tooLong    => .error (.abort (.file .nameTooLong p))
  | _           => .ok .empty

/-- The start line from the first layer that gives one. -/
def firstLine (a : Arguments) (s : Settings) : Given Int :=
  (a.startLine.or (s.startLine.map .value)).getD (.value 1)

/-- The start line, if there is one and it is one that lines can be counted from. -/
def checkLine : Given Int → Except OptionsError Int
  | .nothing => .error (.abort .noStartLine)
  | .value n => if n < 1 then .error (.startLineBelowOne n) else .ok n

/-- The format in the settings. -/
def configFormat (s : Settings) : Except OptionsError (Option Format) :=
  match s.format with
  | none       => .ok none
  | some value =>
    match (Settings.string? value).bind Format.ofName? with
    | some format => .ok (some format)
    | none        => .error (.ofFormat value)

/-- The options that arguments and settings make. -/
def merge (a : Arguments) (s : Settings) : Except OptionsError Options :=
  match checkLine (firstLine a s) with
  | .error e      => .error e
  | .ok startLine =>
    match configFormat s with
    | .error e => .error e
    | .ok configured => .ok {
        input     := .ofText a.input
        output    := givenPath a.output
        filename  :=
          (a.filename.or (s.filename.map .value)).getD (.value (Path.ofText a.input).text)
        startLine := startLine
        format    := (a.format.or (configured.map .value)).getD (.value .text)
        verbose   := a.verbose }

/-- The options for a run among the files there are. -/
def resolve (look : Path → Entry) (a : Arguments) : Except OptionsError Options :=
  match settings (configPath a) (look (configPath a)) with
  | .error e => .error e
  | .ok s    => merge a s

end Options

end Lexis
