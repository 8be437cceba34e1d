import Lexis.Binary64.Basic

/-!
# TOML — values

The values that a TOML document holds.  A table keeps its entries in the order in which they were
made.
-/

namespace Lexis.Toml

/-- A day of the calendar. -/
structure Date where
  year  : Nat
  month : Nat
  day   : Nat
  deriving DecidableEq, Repr

/-- A time of the day. -/
structure Time where
  hour   : Nat
  minute : Nat
  second : Nat
  /-- The millionths of a second. -/
  micros : Nat
  deriving DecidableEq, Repr

/-- A value. -/
inductive Value where
  | string (text : String)
  | integer (n : Int)
  | float (x : Binary64)
  | boolean (b : Bool)
  | date (date : Date)
  | time (time : Time)
  /-- A day and a time, with the seconds from universal time to it if that is given. -/
  | dateTime (date : Date) (time : Time) (offset : Option Int)
  | array (items : List Value)
  | table (entries : List (String × Value))
  deriving Repr

/-- The entries of a table. -/
abbrev Table := List (String × Value)

/-- The table at an entry, if a table is there. -/
def Table.table? (t : Table) (name : String) : Option Table :=
  match t.lookup name with
  | some (.table entries) => some entries
  | _                     => none

namespace Date

/-- A year with a twenty-ninth of February. -/
def isLeap (year : Nat) : Bool :=
  year % 4 = 0 && (year % 100 ≠ 0 || year % 400 = 0)

/-- The number of days in a month. -/
def daysIn (year month : Nat) : Nat :=
  if month = 2 then if isLeap year then 29 else 28
  else if month ∈ [4, 6, 9, 11] then 30
  else 31

/-- Whether the calendar has the day; it begins with the year one. -/
def isValid (d : Date) : Bool :=
  1 ≤ d.year && 1 ≤ d.month && d.month ≤ 12 && 1 ≤ d.day && d.day ≤ daysIn d.year d.month

end Date

end Lexis.Toml
