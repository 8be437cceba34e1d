import Lexis.Text.Digit
import Lexis.Token.Charset
import Lexis.Toml.Flaw
import Lexis.Toml.Value

/-!
# TOML — scalars

The reading of the values that hold no others: texts in four sorts of quotes, numbers, truth
values, dates and times.  A reader gives what stands at the start of a text, and the rest of it;
nothing where the text does not start as it has to.  Only a decimal integer may start as it has to
and be refused all the same, for the number of its digits (`Numeral.value`).
-/

namespace Lexis.Toml

/-! ### Characters -/

/-- A blank within a line. -/
def isBlank (c : Char) : Bool := c = ' ' || c = '\t'

/-- A control character other than the tab. -/
def isControl (c : Char) : Bool := (c.toNat < 32 && c ≠ '\t') || c.toNat = 127

/-- The value of a hexadecimal digit. -/
def hexValue? (c : Char) : Option Nat :=
  if c.isDigit then some (c.toNat - '0'.toNat)
  else if 'a' ≤ c ∧ c ≤ 'f' then some (c.toNat - 'a'.toNat + 10)
  else if 'A' ≤ c ∧ c ≤ 'F' then some (c.toNat - 'A'.toNat + 10)
  else none

/-- A text that is read, with another in front. -/
def inFront (front : List Char) (reading : Option (List Char × List Char)) :
    Option (List Char × List Char) :=
  reading.map fun read => (front ++ read.1, read.2)

/-! ### Texts -/

/-- The character that hexadecimal digits stand for. -/
def charOfHex (digits : List Char) : Option Char := do
  let n := Text.value 16 (← digits.mapM hexValue?)
  if n.isValidChar then some (Char.ofNat n) else none

/-- The character that a letter behind a backslash stands for. -/
def escaped? (c : Char) : Option Char :=
  match c with
  | 'b'  => some '\x08'
  | 't'  => some '\t'
  | 'n'  => some '\n'
  | 'f'  => some '\x0c'
  | 'r'  => some '\r'
  | '"'  => some '"'
  | '\\' => some '\\'
  | _    => none

/-- A text in double quotes, behind the first of them. -/
def basicString : List Char → Option (List Char × List Char)
  | '"' :: r => some ([], r)
  | '\\' :: 'u' :: a :: b :: c :: d :: r => do
    let char ← charOfHex [a, b, c, d]
    inFront [char] (basicString r)
  | '\\' :: 'U' :: a :: b :: c :: d :: e :: f :: g :: h :: r => do
    let char ← charOfHex [a, b, c, d, e, f, g, h]
    inFront [char] (basicString r)
  | '\\' :: c :: r => do
    let char ← escaped? c
    inFront [char] (basicString r)
  | c :: r => if isControl c || c = '\\' then none else inFront [c] (basicString r)
  | []     => none

/-- Where the reading of a text of several lines stands. -/
inductive Fold where
  /-- In the text. -/
  | text
  /-- Behind a backslash and blanks, where a line feed has to come. -/
  | lineEnd
  /-- In the blanks and line feeds that a folded line end swallows. -/
  | gap
  deriving DecidableEq, Repr

/-- Up to two more quotes at the closing ones, which belong to the text. -/
def extraQuotes (q : Char) : List Char → List Char × List Char
  | a :: b :: r =>
    if a = q then if b = q then ([q, q], r) else ([q], b :: r) else ([], a :: b :: r)
  | [a]         => if a = q then ([q], []) else ([], [a])
  | []          => ([], [])

/-- A text in triple double quotes, behind the first of them. -/
def basicLines (fold : Fold) : List Char → Option (List Char × List Char)
  | [] => none
  | c :: r =>
    if fold = .lineEnd then
      if isBlank c then basicLines .lineEnd r
      else if c = '\n' then basicLines .gap r
      else none
    else if fold = .gap ∧ (isBlank c ∨ c = '\n') then basicLines .gap r
    else if c = '"' then
      match r with
      | '"' :: '"' :: r => some (extraQuotes '"' r)
      | r               => inFront ['"'] (basicLines .text r)
    else if c = '\\' then
      match r with
      | 'u' :: a :: b :: c :: d :: r => do
        let char ← charOfHex [a, b, c, d]
        inFront [char] (basicLines .text r)
      | 'U' :: a :: b :: c :: d :: e :: f :: g :: h :: r => do
        let char ← charOfHex [a, b, c, d, e, f, g, h]
        inFront [char] (basicLines .text r)
      | '\n' :: r => basicLines .gap r
      | ' ' :: r  => basicLines .lineEnd r
      | '\t' :: r => basicLines .lineEnd r
      | c :: r    => do
        let char ← escaped? c
        inFront [char] (basicLines .text r)
      | []        => none
    else if isControl c ∧ c ≠ '\n' then none
    else inFront [c] (basicLines .text r)

/-- A text in apostrophes, behind the first of them. -/
def literalString : List Char → Option (List Char × List Char)
  | []     => none
  | c :: r =>
    if c = '\'' then some ([], r)
    else if isControl c then none
    else inFront [c] (literalString r)

/-- A text in triple apostrophes, behind the first of them. -/
def literalLines : List Char → Option (List Char × List Char)
  | []                        => none
  | '\'' :: '\'' :: '\'' :: r => some (extraQuotes '\'' r)
  | c :: r                    =>
    if isControl c ∧ c ≠ '\n' then none else inFront [c] (literalLines r)

/-- A text without the line feed at its start. -/
def dropNewline : List Char → List Char
  | '\n' :: r => r
  | r         => r

/-! ### Numbers -/

/-- The digits that go on a run, each with one underscore in front at most. -/
def moreDigits (digit? : Char → Option Nat) : List Char → List Nat × List Char
  | '_' :: c :: r =>
    match digit? c with
    | some d =>
      let (digits, rest) := moreDigits digit? r
      (d :: digits, rest)
    | none => ([], '_' :: c :: r)
  | c :: r =>
    match digit? c with
    | some d =>
      let (digits, rest) := moreDigits digit? r
      (d :: digits, rest)
    | none => ([], c :: r)
  | [] => ([], [])

/-- A run of digits, one at least. -/
def digitRun (digit? : Char → Option Nat) : List Char → Option (List Nat × List Char)
  | c :: r => do
    let d ← digit? c
    let (digits, rest) := moreDigits digit? r
    some (d :: digits, rest)
  | [] => none

/-- A digit below a base of sixteen at most. -/
def digitBelow (base : Nat) (c : Char) : Option Nat :=
  (hexValue? c).filter (· < base)

/-- A number in base sixteen, eight or two. -/
def basedInteger : List Char → Option (Nat × List Char)
  | '0' :: letter :: r => do
    let base ← match letter with
      | 'x' => some 16
      | 'o' => some 8
      | 'b' => some 2
      | _   => none
    let (digits, rest) ← digitRun (digitBelow base) r
    some (Text.value base digits, rest)
  | _ => none

/-- A sign, negative or not, if there is one. -/
def sign : List Char → Bool × List Char
  | '-' :: r => (true, r)
  | '+' :: r => (false, r)
  | r        => (false, r)

/-- The digits before the point: a single zero, or a run that does not begin with one. -/
def wholeDigits : List Char → Option (List Nat × List Char)
  | '0' :: r => some ([0], r)
  | r        => digitRun Text.digitValue? r

/-- The digits behind a point. -/
def fraction : List Char → Option (List Nat × List Char)
  | '.' :: r => digitRun Text.digitValue? r
  | _        => none

/-- A power of ten. -/
def power : List Char → Option (Int × List Char)
  | c :: r =>
    if c = 'e' ∨ c = 'E' then do
      let (negative, r) := sign r
      let (digits, rest) ← digitRun Text.digitValue? r
      let n : Int := Text.value 10 digits
      some (if negative then -n else n, rest)
    else none
  | [] => none

/-- A decimal number as it is written. -/
inductive Numeral where
  /-- By its sign and its digits. -/
  | whole (negative : Bool) (digits : List Nat)
  /-- With a fraction or a power of ten. -/
  | broken (x : Binary64)
  deriving DecidableEq, Repr

/-- The value of a number, if its digits are not too many. -/
def Numeral.value : Numeral → Except Flaw Value
  | .broken x              => .ok (.float x)
  | .whole negative digits =>
    if digits.length ≤ Text.digitLimit then
      let n : Int := Text.value 10 digits
      .ok (.integer (if negative then -n else n))
    else .error (.tooManyDigits digits.length)

/-- A decimal number. -/
def numeral (text : List Char) : Option (Numeral × List Char) := do
  let (negative, r) := sign text
  let (whole, r) ← wholeDigits r
  let (places, r, placed) := match fraction r with
    | some (places, r) => (places, r, true)
    | none             => ([], r, false)
  let (exponent, r, powered) := match power r with
    | some (exponent, r) => (exponent, r, true)
    | none               => (0, r, false)
  if placed || powered then
    let n := Text.value 10 (whole ++ places)
    some (.broken (.ofDecimal negative n (exponent - places.length)), r)
  else some (.whole negative whole, r)

/-- Infinity, or no number. -/
def specialNumber (text : List Char) : Option (Value × List Char) :=
  match sign text with
  | (negative, 'i' :: 'n' :: 'f' :: r) => some (.float (.infinite negative), r)
  | (_,        'n' :: 'a' :: 'n' :: r) => some (.float .nan, r)
  | _                                  => none

/-! ### Dates and times -/

/-- A number of exactly so many digits. -/
def exactDigits (count : Nat) (text : List Char) : Option (Nat × List Char) := do
  let digits ← (text.take count).mapM Text.digitValue?
  if digits.length = count then some (Text.value 10 digits, text.drop count) else none

/-- A number of two digits within bounds. -/
def twoDigits (low high : Nat) (text : List Char) : Option (Nat × List Char) :=
  (exactDigits 2 text).filter fun read => low ≤ read.1 && read.1 ≤ high

/-- A given character. -/
def mark (c : Char) : List Char → Option (List Char)
  | d :: r => if c = d then some r else none
  | []     => none

/-- The millionths behind a point, if there are digits; those behind the sixth do not count. -/
def micros : List Char → Nat × List Char
  | '.' :: r =>
    let digits := (r.takeWhile Char.isDigit).filterMap Text.digitValue?
    if digits.isEmpty then (0, '.' :: r)
    else
      (Text.value 10 ((digits ++ List.replicate (6 - digits.length) 0).take 6),
        r.dropWhile Char.isDigit)
  | r => (0, r)

/-- A time of the day. -/
def time (text : List Char) : Option (Time × List Char) := do
  let (hour, r) ← twoDigits 0 23 text
  let (minute, r) ← twoDigits 0 59 (← mark ':' r)
  let (second, r) ← twoDigits 0 59 (← mark ':' r)
  let (micros, r) := micros r
  some (⟨hour, minute, second, micros⟩, r)

/-- The seconds from universal time, by the letter of universal time or as hours and minutes. -/
def offset : List Char → Option (Int × List Char)
  | 'Z' :: r => some (0, r)
  | 'z' :: r => some (0, r)
  | '+' :: r => do
    let (hours, r) ← twoDigits 0 23 r
    let (minutes, r) ← twoDigits 0 59 (← mark ':' r)
    some (hours * 3600 + minutes * 60, r)
  | '-' :: r => do
    let (hours, r) ← twoDigits 0 23 r
    let (minutes, r) ← twoDigits 0 59 (← mark ':' r)
    some (-(hours * 3600 + minutes * 60 : Int), r)
  | _ => none

/-- A day, which the calendar may not have. -/
def date (text : List Char) : Option (Date × List Char) := do
  let (year, r) ← exactDigits 4 text
  let (month, r) ← twoDigits 1 12 (← mark '-' r)
  let (day, r) ← twoDigits 1 31 (← mark '-' r)
  some (⟨year, month, day⟩, r)

/-- The time behind a day, if a letter or a space and a time follow. -/
def timeBehind : List Char → Option (Time × List Char)
  | 'T' :: r => time r
  | 't' :: r => time r
  | ' ' :: r => time r
  | _        => none

/-- A day, with a time and an offset if they follow. -/
def dateTime (d : Date) (rest : List Char) : Value × List Char :=
  match timeBehind rest with
  | none => (.date d, rest)
  | some (t, rest) =>
    match offset rest with
    | none              => (.dateTime d t none, rest)
    | some (secs, rest) => (.dateTime d t (some secs), rest)

/-! ### Values -/

/-- A value that begins neither with a quote nor with a bracket. -/
def plainValue : List Char → Except Flaw (Value × List Char)
  | 't' :: 'r' :: 'u' :: 'e' :: r        => .ok (.boolean true, r)
  | 'f' :: 'a' :: 'l' :: 's' :: 'e' :: r => .ok (.boolean false, r)
  | text =>
    match date text with
    | some (d, rest) => if d.isValid then .ok (dateTime d rest) else .error .malformed
    | none =>
      match time text with
      | some (t, rest) => .ok (.time t, rest)
      | none =>
        match basedInteger text with
        | some (n, rest) => .ok (.integer n, rest)
        | none =>
          match numeral text with
          | some (number, rest) => number.value.map fun value => (value, rest)
          | none                => demand (specialNumber text)

/-- A text in any of the four sorts of quotes. -/
def quotedValue : List Char → Option (List Char × List Char)
  | '"' :: '"' :: '"' :: r    => basicLines .text (dropNewline r)
  | '"' :: r                  => basicString r
  | '\'' :: '\'' :: '\'' :: r => literalLines (dropNewline r)
  | '\'' :: r                 => literalString r
  | _                         => none

end Lexis.Toml
