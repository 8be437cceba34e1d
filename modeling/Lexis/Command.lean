import Lexis.Options
import Lexis.SourceFile

/-!
# Command

A run of the command: from arguments and the files there are to an exit code, what is printed,
and a file to be written.  The code is zero for a dump, one for a fault in the source, and two
for anything that keeps the source from being scanned; only a run with code zero writes a file.
Some mishaps end a run without a code (`Abort`).

What a parser says of a text that is no TOML document is given with the files (`complain`).
-/

namespace Lexis

/-- What a run leaves behind. -/
structure Report where
  code   : Nat
  stdout : String
  stderr : String
  /-- A file to be written, and its text. -/
  output : Option (Path × String)
  deriving DecidableEq, Repr

namespace Report

/-- A run that prints an error. -/
def failure (code : Nat) (message : String) : Report :=
  ⟨code, "", message ++ "\n", none⟩

/-- A run that gets no further than its arguments. -/
def ofHalt : Halt → Report
  | .help    => ⟨0, help, "", none⟩
  | .usage e => ⟨2, "", e.report, none⟩

/-- A run that has no dump of its input. -/
def ofSourceError (input : Path) : SourceError → Except Abort Report
  | .fault fault                => .ok (failure 1 fault.report)
  | .unreadable .zeroCharacter  => .error (.file .zeroCharacter input)
  | .unreadable e               => .ok (cannotRead input (e.message input))
  | .notText flaw               => .ok (cannotRead input flaw.message)
  | .tooMuch excess             => .error (.ofExcess excess)
where
  /-- A run that cannot read its input. -/
  cannotRead (input : Path) (reason : String) : Report :=
    failure 2 ("error: cannot read " ++ input.text ++ ": " ++ reason)

/-- A run that has dumped the tokens of its input. -/
def ofDump (look : Path → Entry) (output : Option Path) (dump : String) : Except Abort Report :=
  match output with
  | none   => .ok ⟨0, dump, "", none⟩
  | some p =>
    match (look p).obstacle? with
    | some e => .error (.file e p)
    | none   => .ok ⟨0, "", "", some (p, dump)⟩

end Report

/-- A run with the arguments read, among the files there are. -/
def runWith (complain : List Char → String) (look : Path → Entry) (a : Arguments) :
    Except Abort Report :=
  match Options.resolve look a with
  | .error (.abort mishap) => .error mishap
  | .error e               => .ok (.failure 2 ("error: " ++ e.message complain))
  | .ok o                  =>
    match dumpSource (look o.input) o.filename.shown o.startLine (o.format.getD .text) with
    | .error e => Report.ofSourceError o.input e
    | .ok dump => Report.ofDump look o.output dump

/-- A run of the command among the files there are. -/
def run (complain : List Char → String) (look : Path → Entry) (line : List String) :
    Except Abort Report :=
  match Arguments.parse line with
  | .error halt => .ok (.ofHalt halt)
  | .ok a       => runWith complain look a

/-- A run in a file tree, and the tree after it. -/
def FileTree.run (t : FileTree) (complain : List Char → String) (line : List String) :
    Except Abort (Report × FileTree) :=
  match Lexis.run complain t.entry line with
  | .error abort => .error abort
  | .ok report   =>
    match report.output with
    | none           => .ok (report, t)
    | some (p, text) =>
      match t.write p (Text.Utf8.encode text.toList) with
      | .error e   => .error (.file e p)
      | .ok after  => .ok (report, after)

end Lexis
