import Lexis.Arguments.Flag
import Lexis.Dump
import Lexis.Text.Quoted

/-!
# Arguments — usage

What the command line says about itself: the usage lines, the help, and a message for each way in
which arguments can be wrong.
-/

namespace Lexis

/-- The usage lines. -/
def usage : String :=
  "usage: glscan [-h] [-o OUTPUT] [--config FILE] [--start-line N]\n" ++
  "              [--filename NAME] [--format \x7btext,json\x7d] [-v]\n" ++
  "              input\n"

/-- The help. -/
def help : String :=
  usage ++
  "\n" ++
  "Tokenize a source file and print the token stream\n" ++
  "\n" ++
  "positional arguments:\n" ++
  "  input                 Input source file\n" ++
  "\n" ++
  "options:\n" ++
  "  -h, --help            show this help message and exit\n" ++
  "  -o OUTPUT, --output OUTPUT\n" ++
  "                        Output file (default: stdout)\n" ++
  "  --config FILE         Config file (default: auto-discover glscan.toml)\n" ++
  "  --start-line N        Line number of the first source line (default: 1)\n" ++
  "  --filename NAME       File name shown in diagnostics (default: input path)\n" ++
  "  --format \x7btext,json\x7d  Token output format (default: text)\n" ++
  "  -v, --verbose         Enable debug logging\n"

/-- A way in which arguments can be wrong. -/
inductive UsageError where
  /-- An abbreviation of several spellings. -/
  | ambiguous (argument : String) (spellings : List String)
  /-- A flag without the value it takes. -/
  | missingValue (flag : Flag)
  /-- A flag with a value it does not take. -/
  | unwantedValue (flag : Flag) (value : String)
  /-- A start line that is no whole number. -/
  | notInteger (value : String)
  /-- A format that is none of those there are. -/
  | notFormat (value : String)
  /-- No input file. -/
  | missingInput
  /-- Arguments that have no place. -/
  | unrecognized (arguments : List String)
  deriving DecidableEq, Repr

namespace UsageError

/-- A message about a flag. -/
def about (flag : Flag) (message : String) : String :=
  "argument " ++ flag.title ++ ": " ++ message

/-- What is wrong, in words. -/
def message : UsageError → String
  | .ambiguous argument spellings =>
    "ambiguous option: " ++ argument ++ " could match " ++ ", ".intercalate spellings
  | .missingValue flag        => about flag "expected one argument"
  | .unwantedValue flag value => about flag ("ignored explicit argument " ++ Text.quoted value)
  | .notInteger value         => about .startLine ("invalid int value: " ++ Text.quoted value)
  | .notFormat value          =>
    about .format ("invalid choice: " ++ Text.quoted value ++ " (choose from " ++
      ", ".intercalate (Format.all.map fun format => Text.quoted format.name) ++ ")")
  | .missingInput             => "the following arguments are required: input"
  | .unrecognized arguments   => "unrecognized arguments: " ++ " ".intercalate arguments

/-- The usage lines, and what is wrong. -/
def report (e : UsageError) : String :=
  usage ++ "glscan: error: " ++ e.message ++ "\n"

end UsageError

end Lexis
