import Lexis.Text.Blank
import Lexis.Text.Decimal

/-!
# Text — whole numbers as people write them

Decimal digits of every script, and the lenient reading of a whole number: blanks around it, one
sign, and digits with single underscores between them.  Unicode 14.0 has the digits in runs of
ten, from zero to nine.
-/

namespace Lexis.Text

/-- The code points of the decimal digits zero, in ascending order. -/
def zeroDigits : List Nat :=
  [0x30, 0x660, 0x6F0, 0x7C0, 0x966, 0x9E6, 0xA66, 0xAE6, 0xB66, 0xBE6, 0xC66, 0xCE6, 0xD66, 0xDE6,
   0xE50, 0xED0, 0xF20, 0x1040, 0x1090, 0x17E0, 0x1810, 0x1946, 0x19D0, 0x1A80, 0x1A90, 0x1B50,
   0x1BB0, 0x1C40, 0x1C50, 0xA620, 0xA8D0, 0xA900, 0xA9D0, 0xA9F0, 0xAA50, 0xABF0, 0xFF10, 0x104A0,
   0x10D30, 0x11066, 0x110F0, 0x11136, 0x111D0, 0x112F0, 0x11450, 0x114D0, 0x11650, 0x116C0,
   0x11730, 0x118E0, 0x11950, 0x11C50, 0x11D50, 0x11DA0, 0x16A60, 0x16AC0, 0x16B50, 0x1D7CE,
   0x1D7D8, 0x1D7E2, 0x1D7EC, 0x1D7F6, 0x1E140, 0x1E2F0, 0x1E950, 0x1FBF0]

/-- The value of a decimal digit of any script. -/
def decimalDigit? (c : Char) : Option Nat :=
  (zeroDigits.find? fun first => first ≤ c.toNat && c.toNat ≤ first + 9).map (c.toNat - ·)

/-- The ASCII form of a character in a number: a digit for a digit of any script, a space for a
blank beyond ASCII, and a question mark for what has no place in a number. -/
def plainForm (c : Char) : Char :=
  if c.toNat < 127 then c
  else if isBlank c then ' '
  else match decimalDigit? c with
    | some digit => digitChar digit
    | none       => '?'

/-- An ASCII blank, which may stand around a number. -/
def isPlainBlank (c : Char) : Bool :=
  c = ' ' || (9 ≤ c.toNat && c.toNat ≤ 13)

/-- ASCII digits, one at least, with single underscores between them. -/
def groupedDigits : List Char → Option (List Nat)
  | []               => none
  | [c]              => (digitValue? c).map fun digit => [digit]
  | c :: '_' :: rest => do
    let digit ← digitValue? c
    let digits ← groupedDigits rest
    pure (digit :: digits)
  | c :: d :: rest   => do
    let digit ← digitValue? c
    let digits ← groupedDigits (d :: rest)
    pure (digit :: digits)

/-- The number that grouped digits stand for. -/
def readMagnitude (text : List Char) : Option Nat :=
  match groupedDigits text with
  | some digits => if digits.length ≤ digitLimit then some (value 10 digits) else none
  | none        => none

/-- The whole number that a text stands for. -/
def readInteger (text : List Char) : Option Int :=
  let plain := (text.map plainForm).dropWhile isPlainBlank
  match (plain.reverse.dropWhile isPlainBlank).reverse with
  | '-' :: rest => (readMagnitude rest).map fun n => -(n : Int)
  | '+' :: rest => (readMagnitude rest).map fun n => (n : Int)
  | rest        => (readMagnitude rest).map fun n => (n : Int)

end Lexis.Text
