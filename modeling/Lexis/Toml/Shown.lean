import Lexis.Binary64.Shortest
import Lexis.Text.Quoted
import Lexis.Toml.Value

/-!
# TOML — values in messages

How messages show a value.  By itself a text stands as it is and a date in the form of the
standard; within an array or a table texts are quoted, and dates are written as calls with their
parts.

Every value can be written so.  Messages do without those that are too deep or have too long a
number in them (`depth`, `isWritable`).
-/

namespace Lexis.Toml

open Lexis.Text (decimal)

/-! ### Dates and times by themselves -/

/-- A number with zeros in front up to a width. -/
def padded (width n : Nat) : List Char :=
  let digits := decimal n
  List.replicate (width - digits.length) '0' ++ digits

namespace Date

/-- A day as year, month and day. -/
def shown (d : Date) : List Char :=
  padded 4 d.year ++ '-' :: (padded 2 d.month ++ '-' :: padded 2 d.day)

end Date

namespace Time

/-- A time as hour, minute and second, with six places if it is no whole second. -/
def shown (t : Time) : List Char :=
  padded 2 t.hour ++ ':' :: (padded 2 t.minute ++ ':' :: (padded 2 t.second ++
    if t.micros = 0 then [] else '.' :: padded 6 t.micros))

end Time

/-- An offset as sign, hours and minutes. -/
def shownOffset (seconds : Int) : List Char :=
  let minutes := seconds.natAbs / 60
  (if seconds < 0 then '-' else '+') :: (padded 2 (minutes / 60) ++ ':' :: padded 2 (minutes % 60))

/-! ### Dates and times within other values -/

/-- Parts with commas between them. -/
def listed (parts : List (List Char)) : List Char :=
  [',', ' '].intercalate parts

/-- A call with its parts. -/
def call (name : String) (parts : List (List Char)) : List Char :=
  name.toList ++ '(' :: (listed parts ++ [')'])

namespace Date

/-- The parts of a day. -/
def parts (d : Date) : List (List Char) :=
  [decimal d.year, decimal d.month, decimal d.day]

end Date

namespace Time

/-- The parts of a time, without the zeros behind the minute. -/
def parts (t : Time) : List (List Char) :=
  decimal t.hour :: decimal t.minute ::
    (if t.micros ≠ 0 then [decimal t.second, decimal t.micros]
     else if t.second ≠ 0 then [decimal t.second]
     else [])

end Time

/-- An offset as a number of whole days, if that is not zero, and of seconds. -/
def offsetCall (seconds : Int) : List Char :=
  if seconds = 0 then "datetime.timezone.utc".toList
  else
    let days := seconds.fdiv 86400
    let span := (if days = 0 then [] else ["days=".toList ++ Text.decimalInt days]) ++
      ["seconds=".toList ++ Text.decimalInt (seconds.fmod 86400)]
    call "datetime.timezone" [call "datetime.timedelta" span]

/-! ### Values -/

namespace Value

/-- A truth value. -/
def shownBool (b : Bool) : List Char :=
  if b then "True".toList else "False".toList

mutual

/-- A value within another. -/
def nested : Value → List Char
  | .string text               => Text.Quoted.encode text.toList
  | .integer n                 => Text.decimalInt n
  | .float x                   => x.text
  | .boolean b                 => shownBool b
  | .date d                    => call "datetime.date" d.parts
  | .time t                    => call "datetime.time" t.parts
  | .dateTime d t none         => call "datetime.datetime" (d.parts ++ t.parts)
  | .dateTime d t (some secs)  =>
    call "datetime.datetime" (d.parts ++ t.parts ++ ["tzinfo=".toList ++ offsetCall secs])
  | .array items               => '[' :: (listed (nestedItems items) ++ [']'])
  | .table entries             => '\x7b' :: (listed (nestedEntries entries) ++ ['\x7d'])

/-- The items of an array. -/
def nestedItems : List Value → List (List Char)
  | []           => []
  | item :: rest => nested item :: nestedItems rest

/-- The entries of a table. -/
def nestedEntries : List (String × Value) → List (List Char)
  | []                    => []
  | (name, value) :: rest =>
    (Text.Quoted.encode name.toList ++ ':' :: ' ' :: nested value) :: nestedEntries rest

end

mutual

/-- The number of arrays and tables that stand in one another, at most. -/
def depth : Value → Nat
  | .array items   => itemsDepth items + 1
  | .table entries => entriesDepth entries + 1
  | _              => 0

/-- The greatest depth of items. -/
def itemsDepth : List Value → Nat
  | []           => 0
  | item :: rest => max (depth item) (itemsDepth rest)

/-- The greatest depth of entries. -/
def entriesDepth : List (String × Value) → Nat
  | []                 => 0
  | (_, value) :: rest => max (depth value) (entriesDepth rest)

end

/-- The greatest depth of a value that is shown. -/
def depthLimit : Nat := 991

mutual

/-- Whether all integers in a value have few enough digits to be reported. -/
def isWritable : Value → Bool
  | .integer n     => Text.isWritable n
  | .array items   => itemsWritable items
  | .table entries => entriesWritable entries
  | _              => true

/-- Whether all integers in items have few enough digits. -/
def itemsWritable : List Value → Bool
  | []           => true
  | item :: rest => isWritable item && itemsWritable rest

/-- Whether all integers in entries have few enough digits. -/
def entriesWritable : List (String × Value) → Bool
  | []                 => true
  | (_, value) :: rest => isWritable value && entriesWritable rest

end

/-- A value by itself. -/
def shown : Value → List Char
  | .string text              => text.toList
  | .date d                   => d.shown
  | .time t                   => t.shown
  | .dateTime d t none        => d.shown ++ ' ' :: t.shown
  | .dateTime d t (some secs) => d.shown ++ ' ' :: (t.shown ++ shownOffset secs)
  | value                     => value.nested

end Value

end Lexis.Toml
