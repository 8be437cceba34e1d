import Lexis.Toml.Value

/-!
# TOML — documents under way

The tables of a document while it is read.  A table may be opened by a header once; a table that
stands only on the way to another may still be opened, and a table made by a dotted key may be
added to by dotted keys of the same section alone.  A value that is given is closed, whatever it
holds.  Headers in double brackets add a table to an array, and names that lead through the array
mean its last table.
-/

namespace Lexis.Toml

/-- How a table came about. -/
inductive Origin where
  /-- On the way to a table that a header opened. -/
  | passed
  /-- By a dotted key of the section with a given number. -/
  | dotted (number : Nat)
  /-- By a header of its own. -/
  | opened
  deriving DecidableEq, Repr

/-- What stands at a name while a document is read. -/
inductive Node where
  /-- A value that was given. -/
  | given (value : Value)
  | table (origin : Origin) (entries : List (String × Node))
  /-- An array of tables made by headers: the last one, and those before it, the later first. -/
  | tables (last : List (String × Node)) (earlier : List (List (String × Node)))

/-- The entries of a table under way. -/
abbrev Entries := List (String × Node)

namespace Entries

/-- The entries with the node at a name put in the place of the one there. -/
def replace (es : Entries) (name : String) (node : Node) : Entries :=
  es.map fun entry => if entry.1 = name then (name, node) else entry

/-- The entries with one more. -/
def add (es : Entries) (name : String) (node : Node) : Entries :=
  es ++ [(name, node)]

/-- The entries after a change to those at the end of a way, whose tables are made where they are
missing. -/
def along (change : Entries → Option Entries) (es : Entries) : List String → Option Entries
  | []          => change es
  | name :: way =>
    match es.lookup name with
    | none => do
      let inner ← along change [] way
      some (es.add name (.table .passed inner))
    | some (.table origin inner) => do
      let inner ← along change inner way
      some (es.replace name (.table origin inner))
    | some (.tables last earlier) => do
      let last ← along change last way
      some (es.replace name (.tables last earlier))
    | some (.given _) => none

/-- The entries with a table opened by a header. -/
def openHere (name : String) (es : Entries) : Option Entries :=
  match es.lookup name with
  | none                        => some (es.add name (.table .opened []))
  | some (.table .passed inner) => some (es.replace name (.table .opened inner))
  | _                           => none

/-- The entries with one more table in an array. -/
def appendHere (name : String) (es : Entries) : Option Entries :=
  match es.lookup name with
  | none                        => some (es.add name (.tables [] []))
  | some (.tables last earlier) => some (es.replace name (.tables [] (last :: earlier)))
  | _                           => none

/-- The entries with a value at the end of a dotted key. -/
def assign (number : Nat) (value : Value) (es : Entries) : List String → Option Entries
  | []          => none
  | [name]      =>
    match es.lookup name with
    | none   => some (es.add name (.given value))
    | some _ => none
  | name :: way =>
    match es.lookup name with
    | none => do
      let inner ← assign number value [] way
      some (es.add name (.table (.dotted number) inner))
    | some (.table origin inner) =>
      if origin = .passed ∨ origin = .dotted number then do
        let inner ← assign number value inner way
        some (es.replace name (.table (.dotted number) inner))
      else none
    | some _ => none

end Entries

mutual

/-- The value that a node comes to. -/
def Node.value : Node → Value
  | .given value         => value
  | .table _ entries     => .table (entriesValue entries)
  | .tables last earlier => .array (tablesValue earlier [.table (entriesValue last)])

/-- The table that entries come to. -/
def entriesValue : List (String × Node) → Table
  | []                   => []
  | (name, node) :: rest => (name, node.value) :: entriesValue rest

/-- Tables, the later first, in front of others. -/
def tablesValue : List (List (String × Node)) → List Value → List Value
  | [],              later => later
  | entries :: rest, later => tablesValue rest (.table (entriesValue entries) :: later)

end

/-- A document under way: its entries, the header of the present section, and the number of
sections begun. -/
structure Draft where
  entries : Entries
  header  : List String
  sections : Nat

namespace Draft

/-- An empty document. -/
def empty : Draft := ⟨[], [], 0⟩

/-- The document with a section begun by a change at the last name of its header. -/
def begin (d : Draft) (change : String → Entries → Option Entries) (header : List String) :
    Option Draft := do
  let name ← header.getLast?
  let entries ← d.entries.along (change name) header.dropLast
  some ⟨entries, header, d.sections + 1⟩

/-- The document with a table opened. -/
def openTable (d : Draft) (header : List String) : Option Draft :=
  d.begin Entries.openHere header

/-- The document with one more table in an array. -/
def appendTable (d : Draft) (header : List String) : Option Draft :=
  d.begin Entries.appendHere header

/-- The document with a value at a key of the present section. -/
def assign (d : Draft) (key : List String) (value : Value) : Option Draft := do
  let entries ← d.entries.along (fun es => es.assign d.sections value key) d.header
  some { d with entries := entries }

/-- The table that a document comes to. -/
def table (d : Draft) : Table :=
  entriesValue d.entries

end Draft

end Lexis.Toml
