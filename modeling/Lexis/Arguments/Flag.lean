/-!
# Arguments — flags

The options of the command line.  A flag has one or two spellings, a short one of one dash and one
letter and a long one of two dashes; some flags take a value.
-/

namespace Lexis

/-- An option of the command line. -/
inductive Flag where
  | help
  | output
  | config
  | startLine
  | filename
  | format
  | verbose
  deriving DecidableEq, Repr

namespace Flag

/-- Every flag, in the order of the usage line. -/
def all : List Flag :=
  [.help, .output, .config, .startLine, .filename, .format, .verbose]

/-- The spellings of a flag, the short one first. -/
def spellings : Flag → List String
  | .help      => ["-h", "--help"]
  | .output    => ["-o", "--output"]
  | .config    => ["--config"]
  | .startLine => ["--start-line"]
  | .filename  => ["--filename"]
  | .format    => ["--format"]
  | .verbose   => ["-v", "--verbose"]

/-- Whether a value follows the flag. -/
def takesValue : Flag → Bool
  | .help | .verbose => false
  | _                => true

/-- A flag as messages name it. -/
def title (flag : Flag) : String :=
  "/".intercalate flag.spellings

/-- Every spelling, with its flag. -/
def spelled : List (String × Flag) :=
  all.flatMap fun flag => flag.spellings.map fun spelling => (spelling, flag)

/-- The flag with a given spelling. -/
def ofSpelling? (spelling : String) : Option Flag :=
  spelled.lookup spelling

/-- A flag is found by each of its spellings. -/
theorem ofSpelling?_of_mem {flag : Flag} {spelling : String} (h : spelling ∈ flag.spellings) :
    ofSpelling? spelling = some flag := by
  revert spelling
  cases flag <;> simp [spellings] <;> decide

end Flag

end Lexis
