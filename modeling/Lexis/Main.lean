import Lexis.Command

/-!
# Main — the command line program

Looks up the paths that a run may read or write, runs the command on what is there, prints its
report and writes its output.
-/

namespace Lexis.Program

/-- What is at a path of the file system. -/
def lookUp (p : Path) : IO Entry := do
  if p.hasZero then return .unnameable
  try
    return .file (← IO.FS.readBinFile p.text).toList
  catch
    | .noFileOrDirectory ..        => parentEntry p
    | .inappropriateType _ code _  => return if code = 21 then .folder else .inFile
    | .invalidArgument ..          => return .tooLong
    | _                            => return .folder
where
  /-- What a path without a file leads to: a vacant place where its folder is. -/
  parentEntry (p : Path) : IO Entry := do
    try
      discard <| IO.FS.readBinFile p.parent.text
      return .inFile
    catch
      | .noFileOrDirectory .. => return .nowhere
      | _                     => return .vacant

/-- The paths that a run with given arguments asks for. -/
def paths (line : List String) : List Path :=
  match Arguments.parse line with
  | .ok a    =>
    [Options.configPath a, .ofText a.input] ++ (Options.givenPath a.output).toList
  | .error _ => []

/-- The entries at the paths of a run. -/
def entries (line : List String) : IO (List (Path × Entry)) :=
  (paths line).mapM fun p => return (p, ← lookUp p)

/-- The words on a text that is no TOML document. -/
def complain (_ : List Char) : String :=
  "not a TOML document"

/-- Prints a report and writes its output. -/
def deliver (report : Report) : IO UInt32 := do
  IO.print report.stdout
  IO.eprint report.stderr
  match report.output with
  | some (p, text) => IO.FS.writeFile p.text text
  | none           => pure ()
  return UInt32.ofNat report.code

end Lexis.Program

/-- Runs the command. -/
def main (line : List String) : IO UInt32 := do
  let entries ← Lexis.Program.entries line
  match Lexis.run Lexis.Program.complain (fun p => (entries.lookup p).getD .vacant) line with
  | .ok report   => Lexis.Program.deliver report
  | .error abort => do
    IO.eprintln abort.message
    return 1
