import Lexis.Text.Fields

/-!
# Path

The way to a file, as names from an anchor: the working directory, or the root.  Empty names and
the name `.` lead nowhere and are left out; the name `..` is kept, since what it leads to is for
the files to say.

Any text writes a path, and some of these paths lead to no file whatever files there are: those
with a zero character, those that are too long, and those with too long a name.
-/

namespace Lexis

/-- Where a path starts. -/
inductive Anchor where
  /-- The working directory. -/
  | here
  /-- The root. -/
  | root
  /-- The root by exactly two slashes, which are kept. -/
  | doubleRoot
  deriving DecidableEq, Repr

/-- The slashes of an anchor. -/
def Anchor.text : Anchor → String
  | .here       => ""
  | .root       => "/"
  | .doubleRoot => "//"

/-- The way to a file. -/
structure Path where
  anchor : Anchor
  names  : List String
  deriving DecidableEq, Repr

namespace Path

/-- The anchor that leading slashes stand for. -/
def anchorOf (text : List Char) : Anchor :=
  match (text.takeWhile (· = '/')).length with
  | 0 => .here
  | 2 => .doubleRoot
  | _ => .root

/-- The path that a text writes. -/
def ofText (text : String) : Path where
  anchor := anchorOf text.toList
  names  :=
    ((Text.fields '/' text.toList).map String.ofList).filter fun name => name ≠ "" ∧ name ≠ "."

/-- A path in writing; a single dot for the working directory. -/
def text (p : Path) : String :=
  if p.anchor = .here ∧ p.names = [] then "." else p.anchor.text ++ "/".intercalate p.names

/-- The path without its last name. -/
def parent (p : Path) : Path :=
  { p with names := p.names.dropLast }

/-- The path with one more name. -/
def child (p : Path) (name : String) : Path :=
  { p with names := p.names ++ [name] }

/-- The greatest number of bytes in a name. -/
def nameLimit : Nat := 255

/-- The greatest number of bytes in a path. -/
def lengthLimit : Nat := 4095

/-- Whether a name is longer than a name can be. -/
def isLongName (name : String) : Bool :=
  nameLimit < name.utf8ByteSize

/-- Whether a path is longer than a path can be. -/
def isLong (p : Path) : Bool :=
  lengthLimit < p.text.utf8ByteSize

/-- Whether a path has a zero character, which is in the name of no file. -/
def hasZero (p : Path) : Bool :=
  p.text.toList.contains '\x00'

@[simp] theorem parent_child (p : Path) (name : String) : (p.child name).parent = p := by
  simp [parent, child]

end Path

end Lexis
