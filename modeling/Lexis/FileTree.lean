import Lexis.Path
import Lexis.Text.Decimal
import Lexis.Text.Quoted

/-!
# File tree

The files of a system and its working directory, and what a path leads to among them (`Entry`).
Reading and writing at an entry either succeed or meet a `FileError`.

A place is the names on the way to it from the root.  The names of a path are followed in turn, from
the working directory or from the root, so that of two obstacles on the way the first one counts.
A zero character and the length of the whole path count before all names.
-/

namespace Lexis

/-! ### Entries -/

/-- Why a file cannot be read or written. -/
inductive FileError where
  | notFound
  | notDirectory
  | isDirectory
  | nameTooLong
  /-- The path has a zero character. -/
  | zeroCharacter
  deriving DecidableEq, Repr

namespace FileError

/-- A numbered error at a path. -/
def numbered (number : Nat) (reason : String) (p : Path) : String :=
  "[Errno " ++ Text.integer number ++ "] " ++ reason ++ ": " ++ Text.quoted p.text

/-- An error at a path, in words. -/
def message (e : FileError) (p : Path) : String :=
  match e with
  | .notFound      => numbered 2 "No such file or directory" p
  | .notDirectory  => numbered 20 "Not a directory" p
  | .isDirectory   => numbered 21 "Is a directory" p
  | .nameTooLong   => numbered 36 "File name too long" p
  | .zeroCharacter => "embedded null byte"

end FileError

/-- What a path leads to. -/
inductive Entry where
  | file (bytes : List UInt8)
  | folder
  /-- A place in a folder, where nothing is. -/
  | vacant
  /-- A place in a folder that is not there. -/
  | nowhere
  /-- A place in what is a file and no folder. -/
  | inFile
  /-- A place with a name that is too long, or at the end of a path that is. -/
  | tooLong
  /-- No place, since the path has a zero character. -/
  | unnameable
  deriving DecidableEq, Repr

namespace Entry

/-- The bytes that reading gives. -/
def read : Entry → Except FileError (List UInt8)
  | .file bytes => .ok bytes
  | .folder     => .error .isDirectory
  | .vacant     => .error .notFound
  | .nowhere    => .error .notFound
  | .inFile     => .error .notDirectory
  | .tooLong    => .error .nameTooLong
  | .unnameable => .error .zeroCharacter

/-- What stands against writing, if anything. -/
def obstacle? : Entry → Option FileError
  | .file _     => none
  | .vacant     => none
  | .folder     => some .isDirectory
  | .nowhere    => some .notFound
  | .inFile     => some .notDirectory
  | .tooLong    => some .nameTooLong
  | .unnameable => some .zeroCharacter

end Entry

/-! ### Trees -/

/-- Files by the names on the way to them, folders that may be empty, and the working directory. -/
structure FileTree where
  files   : List (List String × List UInt8)
  folders : List (List String)
  here    : List String
  deriving DecidableEq, Repr

namespace FileTree

/-- No files, and a working directory. -/
def empty (here : List String) : FileTree := ⟨[], [], here⟩

/-- The bytes of a file. -/
def file? (t : FileTree) (names : List String) : Option (List UInt8) :=
  t.files.lookup names

/-- Whether a folder is at a place: the root, or the way to something. -/
def isFolder (t : FileTree) (names : List String) : Bool :=
  names.isEmpty || names.isPrefixOf t.here || t.folders.any (names.isPrefixOf ·) ||
    t.files.any fun file => names.isPrefixOf file.1 && file.1 ≠ names

/-- What is at a place whose folder is there. -/
def entryAt (t : FileTree) (names : List String) : Entry :=
  match t.file? names with
  | some bytes => .file bytes
  | none       => if t.isFolder names then .folder else .vacant

/-- The place that one more name leads to.  The root is the folder of itself. -/
def enter (place : List String) (name : String) : List String :=
  if name = ".." then place.dropLast else place ++ [name]

/-- What names lead to from a place. -/
def follow (t : FileTree) (place : List String) : List String → List String × Entry
  | []           => (place, t.entryAt place)
  | name :: rest =>
    match t.entryAt place with
    | .folder =>
      if Path.isLongName name then (place, .tooLong) else t.follow (enter place name) rest
    | .file _ => (place, .inFile)
    | _       => (place, .nowhere)

/-- The place that a path starts from. -/
def start (t : FileTree) (p : Path) : List String :=
  if p.anchor = .here then t.here else []

/-- What a path leads to, and at which place. -/
def locate (t : FileTree) (p : Path) : List String × Entry :=
  if p.hasZero then (t.start p, .unnameable)
  else if p.isLong then (t.start p, .tooLong)
  else t.follow (t.start p) p.names

/-- What a path leads to. -/
def entry (t : FileTree) (p : Path) : Entry :=
  (t.locate p).2

/-- The tree with a file's bytes set. -/
def put (t : FileTree) (names : List String) (bytes : List UInt8) : FileTree :=
  { t with files := (names, bytes) :: t.files.filter fun file => file.1 ≠ names }

/-- The tree after writing a file. -/
def write (t : FileTree) (p : Path) (bytes : List UInt8) : Except FileError FileTree :=
  match (t.entry p).obstacle? with
  | some e => .error e
  | none   => .ok (t.put (t.locate p).1 bytes)

/-- The files of the second tree that the first has not, or has with other bytes. -/
def changes (before after : FileTree) : List (List String × List UInt8) :=
  after.files.filter fun file => before.file? file.1 ≠ some file.2

/-- A file that is put is found with its bytes. -/
theorem file?_put (t : FileTree) (names : List String) (bytes : List UInt8) :
    (t.put names bytes).file? names = some bytes := by
  simp [put, file?]

end FileTree

end Lexis
